import MhWallet.Framing.Intake
import MhWallet.Framing.Request

/-!
Contract: `frame_io_apdu::exchange` is the output of the request followed by a
pure function of the framer and of the returns of `hid_read`.

Owns: the slices of the response, the function `receive`, and the equation of
`exchange` for any device.

Does not own: what the returns carry.
-/

namespace MhWallet

open MhWallet.Bytes MhWallet.Effect MhWallet.Method MhWallet.Framing

/-- How an exchange ends, the framer it leaves and the reads it made. -/
structure Received where
  outcome : Except Stop (Bytes × Option UInt16)
  framer : FrameIoApdu
  calls : Nat

namespace FrameIoApdu

variable {σ : Type} (tb : Toolbox) (hid : Hidapi σ) {framer : FrameIoApdu}
  {world : World σ}

/-- The framer after `reset`. -/
def restarted (framer : FrameIoApdu) : FrameIoApdu :=
  { framer with mSeq := 0 }

/-- The framer after `cleanup`. -/
def cleaned (framer : FrameIoApdu) : FrameIoApdu :=
  { framer with mSeq := 0, mOffset := 0, rn := 0 }

/-- `respLen`, from the first two bytes of the buffer. -/
def declaredTotal (buffer : Bytes) : UInt16 :=
  UInt16.ofNat (ofBigEndian (buffer.take 2)) + 2

/-- The response and the status in a buffer. -/
def decode (respLen : UInt16) (buffer : Bytes) (statusCode : Option UInt16) :
    Except Stop (Bytes × Option UInt16) :=
  if respLen ≥ 2 then
    match slice? buffer 2 (respLen.toNat - 2),
      slice? buffer (respLen.toNat - 2) respLen.toNat with
    | some resp, some respCode =>
        .ok (resp, statusCode.map fun _ => .ofNat (ofBigEndian respCode))
    | _, _ => .error (.throws .outOfRange)
  else .ok ([], statusCode.map fun _ => codeNoStatusResult)

/-- A response that is cut short is the only stop. -/
theorem decode_avoids {reason : Stop} (other : .throws .outOfRange ≠ reason) (respLen : UInt16)
    (buffer : Bytes) (statusCode : Option UInt16) :
    decode respLen buffer statusCode ≠ .error reason := by
  unfold decode
  split
  · split <;> simp [other]
  · simp

/-- `cleanup` is reached only by a call that returns. -/
def settled {α : Type} (framer : FrameIoApdu) : Except Stop α → FrameIoApdu
  | .ok _ => framer.cleaned
  | .error _ => framer

theorem conclude_run (respLen : UInt16) (buffer : Bytes) (statusCode : Option UInt16) :
    (conclude tb respLen buffer statusCode).run ⟨framer, world⟩ =
      (decode respLen buffer statusCode,
        ⟨framer.settled (decode respLen buffer statusCode), world⟩) := by
  rw [conclude, decode]
  by_cases long : respLen ≥ 2
  · simp only [if_pos long, Toolbox.takeRange_eq, Action.run_bind]
    rcases slice? buffer 2 (respLen.toNat - 2) with _ | resp
    · rfl
    · rcases sliced : slice? buffer (respLen.toNat - 2) respLen.toNat with _ | respCode
      · rfl
      · have longNat : 2 ≤ respLen.toNat := long
        have codeLength : respCode.length = 2 := by
          have := (length_of_slice? sliced).1
          omega
        have codeWhole : tb.toUInt16 respCode 0 = some (.ofNat (ofBigEndian respCode)) := by
          rw [Toolbox.toUInt16_eq, slice?_of_le (by omega) (by omega), List.drop_zero,
            List.take_of_length_le (by omega)]
          rfl
        cases statusCode with
        | none => rfl
        | some status =>
            simp only [run_orOutOfRange_some, Option.map_some, codeWhole]
            rfl
  · simp only [if_neg long]
    rfl

/-- What an exchange makes of the returns of `hid_read`. -/
def receive (statusCode : Option UInt16) (framer : FrameIoApdu) :
    List ReadResult → Received
  | [] => ⟨.error .waits, framer, 1⟩
  | first :: rest =>
      match framer.absorb (List.replicate 255 0) first with
      | (.error reason, framer) => ⟨.error reason, framer, 1⟩
      | (.ok buffer, framer) =>
          let respLen := declaredTotal buffer
          let intake := gather respLen.toNat framer buffer rest
          match intake.outcome with
          | .error reason => ⟨.error reason, intake.framer, intake.calls + 1⟩
          | .ok buffer =>
              ⟨decode respLen buffer statusCode,
                intake.framer.settled (decode respLen buffer statusCode),
                intake.calls + 1⟩

theorem receive_ended {statusCode : Option UInt16} {results : List ReadResult}
    (ended : Ended (framer.receive statusCode results).outcome) :
    (framer.receive statusCode results).calls ≤ results.length ∧
      ∀ result ∈ results.take (framer.receive statusCode results).calls,
        result.error = none := by
  cases results with
  | nil => simp [receive, Ended, Stop.Unwinds] at ended
  | cons first rest =>
      rw [receive] at ended ⊢
      rcases absorbed : framer.absorb (List.replicate 255 0) first with ⟨reason | buffer, next⟩
      · rw [absorbed] at ended
        simp only [List.length_cons, Nat.le_add_left, List.take_succ_cons, List.take_zero,
          List.mem_singleton, forall_eq, true_and]
        exact absorb_clean absorbed ended
      · rw [absorbed] at ended
        dsimp only at ended ⊢
        have gathered : Ended
            (gather (declaredTotal buffer).toNat next buffer rest).outcome := by
          rcases outcome : (gather (declaredTotal buffer).toNat next buffer rest).outcome with
            reason | gathered
          · rw [outcome] at ended
            exact ended
          · trivial
        obtain ⟨fewer, clean⟩ := gather_ended gathered
        split
        all_goals
          simp only [List.length_cons, Nat.add_le_add_iff_right, List.take_succ_cons,
            List.mem_cons, forall_eq_or_imp]
          exact ⟨fewer, (absorb_ok absorbed).1, clean⟩

/-- The reads of an exchange never have undefined behaviour. -/
theorem receive_defined (statusCode : Option UInt16) (framer : FrameIoApdu)
    (results : List ReadResult) :
    (framer.receive statusCode results).outcome ≠ .error .undefined := by
  cases results with
  | nil => simp [receive]
  | cons first rest =>
      have defined := @absorb_defined framer (List.replicate 255 0) first
      rw [receive]
      rcases absorbed : framer.absorb (List.replicate 255 0) first with ⟨reason | buffer, next⟩
      · rw [absorbed] at defined
        simpa using defined
      · have gathered := gather_defined (declaredTotal buffer).toNat next buffer rest
        dsimp only
        split
        next reason stopped =>
          rw [stopped] at gathered
          simpa using gathered
        next => exact decode_avoids (by simp) _ _ _

theorem receive_frame {statusCode : Option UInt16} {results : List ReadResult}
    (room : framer.mBuffer.length ≤ 64) :
    (framer.receive statusCode results).framer.mIo = framer.mIo ∧
      (framer.receive statusCode results).framer.mBuffer.length ≤ 64 := by
  cases results with
  | nil => exact ⟨rfl, room⟩
  | cons first rest =>
      rw [receive]
      obtain ⟨sameDevice, sameRoom⟩ := absorb_frame (List.replicate 255 0) first room
      rcases absorbed : framer.absorb (List.replicate 255 0) first with ⟨reason | buffer, next⟩
      · rw [absorbed] at sameDevice sameRoom
        exact ⟨sameDevice, sameRoom⟩
      · rw [absorbed] at sameDevice sameRoom
        obtain ⟨laterDevice, laterRoom⟩ :=
          @gather_frame (declaredTotal buffer).toNat next buffer rest sameRoom
        dsimp only
        split
        · exact ⟨laterDevice.trans sameDevice, laterRoom⟩
        next gathered _ =>
          rcases decode (declaredTotal buffer) gathered statusCode with reason | response
          · exact ⟨laterDevice.trans sameDevice, laterRoom⟩
          · exact ⟨laterDevice.trans sameDevice, laterRoom⟩

theorem exchange_run_of_large {apdu : Apdu} (large : 255 < apdu.payloadSize)
    (statusCode : Option UInt16) (scene : Scene FrameIoApdu σ) :
    (exchange tb hid apdu statusCode).run scene =
      (.error (.throws .payloadTooLarge), scene) := by
  rw [exchange, if_pos large, run_throw]

theorem exchange_run_of_null {apdu : Apdu} (small : apdu.payloadSize ≤ 255)
    (null : framer.mIo.mDev = none) (free : framer.mIo.mDevLock ∉ world.held)
    (statusCode : Option UInt16) :
    ((exchange tb hid apdu statusCode).run ⟨framer, world⟩).1 = .error .undefined := by
  have nullBase : framer.restarted.toFrameIo.mIo.mDev = none := null
  have stopped := FrameIo.write_run_of_null tb hid small nullBase free
  rw [exchange, if_neg (by omega), Action.run_bind, run_onMember]
  simp only [FrameIo.reset, run_updateSelf]
  rw [Action.run_bind, run_onMember]
  rcases ran : (FrameIo.write tb hid apdu).run ⟨framer.restarted.toFrameIo, world⟩ with
    ⟨outcome, reached⟩
  rw [ran] at stopped
  dsimp only at stopped
  subst stopped
  erw [ran]

theorem exchange_run {handle : Handle} {apdu : Apdu} {statusCode : Option UInt16}
    {count : Nat} (small : apdu.payloadSize ≤ 255) (live : framer.mIo.mDev = some handle)
    (free : framer.mIo.mDevLock ∉ world.held) (room : framer.mBuffer.length ≤ 64)
    (bound : 65536 ≤ count) :
    let sent := world.afterWrites hid framer.mIo.mDevLock handle
      (requestReports apdu)
    let received := framer.restarted.receive statusCode (hid.answers handle count sent.env)
    (exchange tb hid apdu statusCode).run ⟨framer, world⟩ =
      (received.outcome,
        ⟨received.framer,
          sent.afterReads hid framer.mIo.mDevLock handle received.calls⟩) := by
  intro sent received
  have sentHeld : sent.held = world.held := World.afterWrites_held ..
  have liveBase : framer.restarted.toFrameIo.mIo.mDev = some handle := live
  have liveRestarted : framer.restarted.mIo.mDev = some handle := live
  have freeSent : framer.restarted.mIo.mDevLock ∉ sent.held := by
    rw [sentHeld]
    exact free
  have roomRestarted : framer.restarted.mBuffer.length ≤ 64 := room
  have written := FrameIo.write_run tb hid small liveBase free
  obtain ⟨count, rfl⟩ : ∃ fewer, count = fewer + 1 := ⟨count - 1, by omega⟩
  have start : (exchange tb hid apdu statusCode).run ⟨framer, world⟩ =
      (do
        let buffer ← readMore tb hid (tb.bytesData 255)
        let declared ← orOutOfRange (tb.toUInt16 buffer 0)
        let respLen := declared + 2
        let buffer ← readRest tb hid respLen respLen.toNat buffer
        conclude tb respLen buffer statusCode).run ⟨framer.restarted, sent⟩ := by
    rw [exchange, if_neg (by omega), Action.run_bind, run_onMember]
    simp only [FrameIo.reset, run_updateSelf]
    rw [Action.run_bind, run_onMember]
    erw [written]
    rfl
  rw [start, Action.run_bind, readMore_run tb hid liveRestarted freeSent roomRestarted]
  simp only [received, receive, Hidapi.answers, Toolbox.bytesData_eq]
  rcases answer : hid.read handle 64 sent.env with ⟨result | result, env⟩
  · simp only [afterAnswer, World.afterReads, answer]
    rfl
  · obtain ⟨sameDevice, sameRoom⟩ :=
      absorb_frame (List.replicate 255 0) result roomRestarted
    rcases absorbed : framer.restarted.absorb (List.replicate 255 0) result with
      ⟨reason | buffer, next⟩
    · simp only [afterAnswer, absorbed, World.afterReads, answer]
      rfl
    · rw [absorbed] at sameDevice sameRoom
      have long := (absorb_progress absorbed).2
      have clean := (absorb_ok absorbed).1
      have sameHeld : (sent.afterRead framer.mIo.mDevLock handle env result).held =
          world.held := by
        rw [World.afterRead, clean]
        exact sentHeld
      have sameEnv : (sent.afterRead framer.mIo.mDevLock handle env result).env = env := by
        rw [World.afterRead, clean]
        rfl
      rw [List.length_replicate] at long
      have declared : tb.toUInt16 buffer 0 =
          some (UInt16.ofNat (ofBigEndian (buffer.take 2))) := by
        rw [Toolbox.toUInt16_eq, slice?_of_le (by omega) (by omega)]
        rfl
      have later := readRest_run tb hid (declaredTotal buffer).toNat count next buffer
        (sent.afterRead framer.mIo.mDevLock handle env result)
        (by rw [sameDevice]; exact live)
        (by rw [sameDevice, sameHeld]; exact free)
        sameRoom (Nat.le_add_left _ _)
        (by have := (declaredTotal buffer).toNat_lt; omega)
      dsimp only at later
      rw [sameDevice, sameEnv] at later
      have readLater : (readRest tb hid (UInt16.ofNat (ofBigEndian (buffer.take 2)) + 2)
          (UInt16.ofNat (ofBigEndian (buffer.take 2)) + 2).toNat buffer).run
            ⟨next, sent.afterRead framer.mIo.mDevLock handle env result⟩ = _ := later
      simp only [afterAnswer, absorbed, declared, Action.run_bind, run_orOutOfRange_some]
      erw [readLater]
      rcases (gather (declaredTotal buffer).toNat next buffer
        (hid.answers handle count env)).outcome with reason | gathered
      · simp only [World.afterReads, answer]
        rfl
      · simp only [World.afterReads, answer]
        erw [conclude_run]
        rfl

/-- The outcome of an exchange with a device that plays a script. -/
theorem exchange_outcome_of_script {handle : Handle} {apdu : Apdu} {script : Script}
    (small : apdu.payloadSize ≤ 255) (live : framer.mIo.mDev = some handle)
    (room : framer.mBuffer.length ≤ 64) (short : script.reads.length ≤ 65536)
    (statusCode : Option UInt16) :
    ((exchange tb Script.device apdu statusCode).run ⟨framer, script.world⟩).1 =
      (framer.restarted.receive statusCode script.reads).outcome := by
  have free : framer.mIo.mDevLock ∉ script.world.held := List.not_mem_nil
  have reads : ∀ (reports : List Bytes) (world : World Script),
      (world.afterWrites Script.device framer.mIo.mDevLock handle reports).env.reads =
        world.env.reads := by
    intro reports
    induction reports with
    | nil => exact fun _ => rfl
    | cons report reports inductionHypothesis =>
        intro world
        rw [World.afterWrites_cons, inductionHypothesis]
        rfl
  rw [exchange_run tb Script.device small live free room (Nat.le_refl 65536)]
  simp only [Script.answers, reads]
  exact congrArg (fun results => (framer.restarted.receive statusCode results).outcome)
    (List.take_of_length_le short)

/-- However an exchange ends, it has written the request and then made reads,
and the framer keeps its device. -/
theorem exchange_log {handle : Handle} {apdu : Apdu} {statusCode : Option UInt16}
    (small : apdu.payloadSize ≤ 255) (live : framer.mIo.mDev = some handle)
    (free : framer.mIo.mDevLock ∉ world.held) (room : framer.mBuffer.length ≤ 64) :
    let reached := ((exchange tb hid apdu statusCode).run ⟨framer, world⟩).2
    (∃ calls results, reached.world.log = world.log ++
      (((requestReports apdu).flatMap fun report =>
          [.lock framer.mIo.mDevLock, .hidWrite (some handle) report,
            .unlock framer.mIo.mDevLock]) ++
        readTrace framer.mIo.mDevLock handle calls results)) ∧
      reached.self.mIo = framer.mIo ∧ reached.self.mBuffer.length ≤ 64 := by
  intro reached
  let sent := world.afterWrites hid framer.mIo.mDevLock handle (requestReports apdu)
  let received := framer.restarted.receive statusCode (hid.answers handle 65536 sent.env)
  have spec : reached = ⟨received.framer,
      sent.afterReads hid framer.mIo.mDevLock handle received.calls⟩ :=
    congrArg Prod.snd (exchange_run tb hid small live free room (Nat.le_refl 65536))
  rw [spec]
  refine ⟨⟨received.calls, hid.answers handle received.calls sent.env, ?_⟩, receive_frame room⟩
  rw [World.afterReads_log, ← List.append_assoc]
  exact congrArg (fun sent : World σ => sent.log ++ _) (World.afterWrites_eq ..)

/-- However an exchange ends, it has written the request once. -/
theorem exchange_writes {handle : Handle} {apdu : Apdu} {statusCode : Option UInt16}
    (small : apdu.payloadSize ≤ 255) (live : framer.mIo.mDev = some handle)
    (free : framer.mIo.mDevLock ∉ world.held) (room : framer.mBuffer.length ≤ 64) :
    let reached := ((exchange tb hid apdu statusCode).run ⟨framer, world⟩).2
    ∃ events, reached.world.log = world.log ++ events ∧
      writtenReports events = requestReports apdu ∧
      reached.self.mIo = framer.mIo ∧ reached.self.mBuffer.length ≤ 64 := by
  intro reached
  obtain ⟨⟨calls, results, log⟩, frame⟩ := exchange_log tb hid small live free room
  refine ⟨_, log, ?_, frame⟩
  rw [writtenReports_append, writtenReports_writes, writtenReports_readTrace, List.append_nil]

/-- Writes, reads and their locks, on one handle. -/
def exchangeEvents (mutex : Mutex) (handle : Handle) (reports : List Bytes)
    (results : List ReadResult) : List Event :=
  (reports.flatMap fun report =>
    [.lock mutex, .hidWrite (some handle) report, .unlock mutex]) ++
    results.flatMap (readEvents mutex handle)

/-- An exchange that comes back has changed the environment and the log alone:
it wrote the request and took the reads that `receive` asks for. -/
theorem exchange_ended_run {handle : Handle} {apdu : Apdu} {statusCode : Option UInt16}
    (small : apdu.payloadSize ≤ 255) (live : framer.mIo.mDev = some handle)
    (free : framer.mIo.mDevLock ∉ world.held) (room : framer.mBuffer.length ≤ 64)
    {outcome : Except Stop (Bytes × Option UInt16)} {reached : Scene FrameIoApdu σ}
    (ran : (exchange tb hid apdu statusCode).run ⟨framer, world⟩ = (outcome, reached))
    (ended : Ended outcome) :
    ∃ env results,
      outcome = (framer.restarted.receive statusCode results).outcome ∧
      reached.self = (framer.restarted.receive statusCode results).framer ∧
      reached.world = world.extend env
        (exchangeEvents framer.mIo.mDevLock handle (requestReports apdu)
          (results.take (framer.restarted.receive statusCode results).calls)) ∧
      ∀ result ∈ results.take (framer.restarted.receive statusCode results).calls,
        result.error = none := by
  let sent := world.afterWrites hid framer.mIo.mDevLock handle
    (requestReports apdu)
  let received := framer.restarted.receive statusCode (hid.answers handle 65536 sent.env)
  have spec : (outcome, reached) = (received.outcome, ⟨received.framer,
      sent.afterReads hid framer.mIo.mDevLock handle received.calls⟩) :=
    ran.symm.trans (exchange_run tb hid small live free room (Nat.le_refl 65536))
  simp only [Prod.mk.injEq] at spec
  obtain ⟨rfl, rfl⟩ := spec
  obtain ⟨fewer, clean⟩ := receive_ended ended
  have taken : (hid.answers handle 65536 sent.env).take received.calls =
      hid.answers handle received.calls sent.env :=
    Hidapi.answers_take hid handle
      (Nat.le_trans fewer (Hidapi.answers_length_le hid handle 65536 sent.env)) sent.env
  have answered : received.calls ≤ (hid.answers handle received.calls sent.env).length := by
    rw [← taken, List.length_take]
    exact Nat.le_min.mpr ⟨Nat.le_refl _, fewer⟩
  refine ⟨(sent.afterReads hid framer.mIo.mDevLock handle received.calls).env,
    hid.answers handle 65536 sent.env, rfl, rfl, ?_, clean⟩
  have sentEq := World.afterWrites_eq world hid framer.mIo.mDevLock handle
    (requestReports apdu)
  calc sent.afterReads hid framer.mIo.mDevLock handle received.calls
      = sent.extend (sent.afterReads hid framer.mIo.mDevLock handle received.calls).env
          ((hid.answers handle received.calls sent.env).flatMap
            (readEvents framer.mIo.mDevLock handle)) :=
        World.afterReads_eq hid framer.mIo.mDevLock handle received.calls sent answered
          (fun result member => clean result (taken ▸ member))
    _ = world.extend (sent.afterReads hid framer.mIo.mDevLock handle received.calls).env
          (exchangeEvents framer.mIo.mDevLock handle (requestReports apdu)
            ((hid.answers handle 65536 sent.env).take received.calls)) := by
        rw [taken]
        generalize (sent.afterReads hid framer.mIo.mDevLock handle received.calls).env = env
        generalize hid.answers handle received.calls sent.env = results
        rw [show sent = _ from sentEq]
        simp only [World.extend, exchangeEvents, List.append_assoc]

/-- An exchange that comes back makes writes and reads without an error, and the
framer keeps its device. -/
theorem exchange_ended {handle : Handle} {apdu : Apdu} {statusCode : Option UInt16}
    (live : framer.mIo.mDev = some handle) (free : framer.mIo.mDevLock ∉ world.held)
    (room : framer.mBuffer.length ≤ 64) {outcome : Except Stop (Bytes × Option UInt16)}
    {reached : Scene FrameIoApdu σ}
    (ran : (exchange tb hid apdu statusCode).run ⟨framer, world⟩ = (outcome, reached))
    (ended : Ended outcome) :
    ∃ env reports results,
      reached.world = world.extend env
        (exchangeEvents framer.mIo.mDevLock handle reports results) ∧
      (∀ result ∈ results, result.error = none) ∧
      reached.self.mIo = framer.mIo ∧ reached.self.mBuffer.length ≤ 64 := by
  by_cases small : apdu.payloadSize ≤ 255
  · obtain ⟨env, results, _, self, sameWorld, clean⟩ :=
      exchange_ended_run tb hid small live free room ran ended
    refine ⟨env, requestReports apdu, _, sameWorld, clean, ?_⟩
    rw [self]
    exact receive_frame room
  · rw [exchange_run_of_large tb hid (by omega)] at ran
    simp only [Prod.mk.injEq] at ran
    obtain ⟨rfl, rfl⟩ := ran
    exact ⟨world.env, [], [], by simp [exchangeEvents, World.extend], by simp, rfl, room⟩

end FrameIoApdu

end MhWallet
