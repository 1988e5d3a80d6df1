import MhWallet.Framing.Ordering
import MhWallet.Framing.Outgoing

/-!
Contract: an exchange of the framer with a device that queues its input reports.

Every APDU that has been written completely is answered by one report at the
end of the queue.  Foreign reports arrive there at any moment, and opening the
device empties the queue.

Owns: the device, what the queue holds once a request has been written, and the
exchange as the removal of the oldest report.

Does not own: how the wallet goes on after an exchange.
-/

namespace MhWallet

open MhWallet.Bytes MhWallet.Effect MhWallet.Method MhWallet.Framing

/-- A response that fits one report. -/
structure Answer where
  data : Bytes
  status : UInt16
  fits : data.length + 4 ≤ 59

/-- A report that no exchange waits for: every response fits one report, so the
expected number is 0. -/
structure Stray where
  report : Bytes
  size : report.length = 64
  foreign : headerFault 0 report ≠ none

/-- A report in the queue: a foreign one, or the answer to the APDU with this
number. -/
inductive Queued where
  | foreign (stray : Stray)
  | response (number : Nat) (answer : Answer)

/-- The reports that wait to be read, the part of an APDU that has arrived, the
number of the next APDU and the time. -/
structure Fifo where
  queue : List Queued
  pending : Bytes
  answered : Nat
  clock : Nat

/-- What the device answers to each APDU, the foreign reports of each moment,
what is attached then and whether it can be opened. -/
structure Peer where
  respond : (number : Nat) → (request : Bytes) → Answer
  strays : (moment : Nat) → List Stray
  attached : (moment : Nat) → List HidDeviceInfo
  opens : (moment : Nat) → Bool

def Answer.message (answer : Answer) : Bytes := responseMessage answer.data answer.status

/-- What an exchange returns that reads this answer. -/
def Answer.returned (answer : Answer) (resCode : Option UInt16) : Bytes × Option UInt16 :=
  (answer.data, resCode.map fun _ => answer.status)

/-- The exception that the report raises. -/
def Stray.fault (stray : Stray) : Exception :=
  (headerFault 0 stray.report).get (Option.isSome_iff_ne_none.mpr stray.foreign)

namespace Queued

def report : Queued → Bytes
  | .foreign stray => stray.report
  | .response _ answer => inputReport answer.message 0

/-- How an exchange ends that reads this report first. -/
def outcome (resCode : Option UInt16) : Queued → Except Stop (Bytes × Option UInt16)
  | .foreign stray => .error (.throws stray.fault)
  | .response _ answer => .ok (answer.returned resCode)

theorem report_length (entry : Queued) : entry.report.length = 64 := by
  cases entry with
  | foreign stray => exact stray.size
  | response number answer => exact inputReport_length answer.message 0

end Queued

namespace Peer

/-- The foreign reports of this moment arrive. -/
def tick (peer : Peer) (fifo : Fifo) : Fifo :=
  { fifo with
    queue := fifo.queue ++ (peer.strays fifo.clock).map .foreign
    clock := fifo.clock + 1 }

/-- The content of an output report arrives; the APDU that it completes is
answered. -/
def accept (peer : Peer) (report : Bytes) (fifo : Fifo) : Fifo :=
  let pending := fifo.pending ++ report.drop 5
  let size := ofBigEndian (pending.take 2)
  if pending.length < 2 + size then { fifo with pending }
  else
    { fifo with
      queue := fifo.queue ++
        [.response fifo.answered (peer.respond fifo.answered ((pending.drop 2).take size))]
      pending := []
      answered := fifo.answered + 1 }

/-- An open that succeeds starts with an empty queue. -/
def opened (peer : Peer) (fifo : Fifo) : Bool × Fifo :=
  let fifo := peer.tick fifo
  if peer.opens fifo.clock then (true, { fifo with queue := [], pending := [] })
  else (false, fifo)

/-- The oldest report is read; an empty queue makes the call wait. -/
def fetch (fifo : Fifo) : Option ReadResult × Fifo :=
  (fifo.queue.head?.map fun entry => .ofReport entry.report,
    { fifo with queue := fifo.queue.tail })

def device (peer : Peer) : Hidapi Fifo where
  enumerate fifo := (peer.attached fifo.clock, peer.tick fifo)
  openDevice _ _ fifo := peer.opened fifo
  openPath _ fifo := peer.opened fifo
  close _ fifo := peer.tick fifo
  write _ report fifo := (.ofNat report.length, peer.accept report (peer.tick fifo))
  read _ _ fifo := fetch (peer.tick fifo)
  error _ _ := none
  errno _ := (0, "")

/-- What an open leaves. -/
theorem opened_cases (peer : Peer) (fifo : Fifo) :
    peer.opened fifo = (true, { peer.tick fifo with queue := [], pending := [] }) ∨
      peer.opened fifo = (false, peer.tick fifo) := by
  unfold opened
  dsimp only
  split
  · exact .inl rfl
  · exact .inr rfl

/-- The answer to an open, whatever identifies the device. -/
theorem openAnswer_eq (peer : Peer) (dev : HidppDevice) (fifo : Fifo) :
    dev.openAnswer peer.device fifo = peer.opened fifo := by
  unfold HidppDevice.openAnswer
  split <;> rfl

/-- The foreign reports of the device. -/
def Sends (peer : Peer) (stray : Stray) : Prop := ∃ moment, stray ∈ peer.strays moment

end Peer

/-! ## A request that is written -/

theorem World.afterWrites_env {σ : Type} (hid : Hidapi σ) (mutex : Mutex) (handle : Handle)
    (reports : List Bytes) (world : World σ) :
    (world.afterWrites hid mutex handle reports).env =
      reports.foldl (fun env report => (hid.write handle report env).2) world.env := by
  induction reports generalizing world with
  | nil => rfl
  | cons report reports inductionHypothesis =>
      rw [World.afterWrites_cons, inductionHypothesis]
      rfl

namespace Peer

variable (peer : Peer)

/-- The queue after an APDU: what was in it, foreign reports that arrived in the
meantime, and the answer. -/
structure Requested (request : Bytes) (before after : Fifo) : Prop where
  queue : ∃ early : List Stray, (∀ stray ∈ early, peer.Sends stray) ∧
    after.queue = before.queue ++ early.map .foreign ++
      [.response before.answered (peer.respond before.answered request)]
  pending : after.pending = []
  answered : after.answered = before.answered + 1

variable {peer}

/-- Foreign reports that arrive before the rest of the request is written. -/
theorem Requested.afterTick {request : Bytes} {before middle after : Fifo}
    (requested : peer.Requested request middle after)
    (queue : middle.queue = (peer.tick before).queue)
    (answered : middle.answered = before.answered) :
    peer.Requested request before after where
  queue := by
    obtain ⟨early, sent, same⟩ := requested.queue
    refine ⟨peer.strays before.clock ++ early, ?_, ?_⟩
    · intro stray member
      rcases List.mem_append.mp member with now | later
      · exact ⟨before.clock, now⟩
      · exact sent stray later
    · rw [same, queue, answered, tick, List.map_append]
      simp only [List.append_assoc]
  pending := requested.pending
  answered := by rw [requested.answered, answered]

/-- What has arrived after the report of this index. -/
private theorem pending_append {message : Bytes} {index : Nat} {fifo : Fifo}
    (pending : fifo.pending = message.take (59 * index)) :
    fifo.pending ++ (outputReport message index).drop 5 = message.take (59 * (index + 1)) := by
  rw [pending, outputReport_drop, chunk, ← List.take_add]
  rfl

/-- A report that does not complete the message is kept. -/
theorem accept_part {message : Bytes} {index : Nat} {fifo : Fifo}
    (declared : ofBigEndian (message.take 2) + 2 = message.length)
    (pending : fifo.pending = message.take (59 * index))
    (unfinished : 59 * (index + 1) < message.length) :
    peer.accept (outputReport message index) fifo =
      { fifo with pending := message.take (59 * (index + 1)) } := by
  have leading : (message.take (59 * (index + 1))).take 2 = message.take 2 := by
    rw [List.take_take, Nat.min_eq_left (by omega)]
  unfold accept
  simp only [pending_append pending, leading, List.length_take]
  rw [if_pos (by omega)]

/-- The report that completes the message is answered. -/
theorem accept_last {message : Bytes} {index : Nat} {fifo : Fifo}
    (declared : ofBigEndian (message.take 2) + 2 = message.length)
    (pending : fifo.pending = message.take (59 * index))
    (finished : message.length ≤ 59 * (index + 1)) :
    peer.Requested (message.drop 2) fifo (peer.accept (outputReport message index) fifo) := by
  have whole : fifo.pending ++ (outputReport message index).drop 5 = message := by
    rw [pending_append pending, List.take_of_length_le finished]
  have request : (message.drop 2).take (ofBigEndian (message.take 2)) = message.drop 2 :=
    List.take_of_length_le (by rw [List.length_drop]; omega)
  unfold accept
  simp only [whole, request]
  rw [if_neg (by omega)]
  exact ⟨⟨[], by simp, by simp⟩, rfl, rfl⟩

/-- The reports of a message from an index on, written to the device. -/
theorem requested_of_writes {message : Bytes}
    (declared : ofBigEndian (message.take 2) + 2 = message.length) (handle : Handle) :
    ∀ (left index : Nat) (fifo : Fifo), fifo.pending = message.take (59 * index) →
      chunkCount 59 message.length = index + (left + 1) →
      peer.Requested (message.drop 2) fifo
        (((List.range' index (left + 1)).map (outputReport message)).foldl
          (fun fifo report => (peer.device.write handle report fifo).2) fifo) := by
  intro left
  induction left with
  | zero =>
      intro index fifo pending count
      have last : message.length ≤ 59 * (index + 1) := by
        rw [chunkCount] at count
        omega
      have ticked : (peer.tick fifo).pending = message.take (59 * index) := pending
      exact (accept_last declared ticked last).afterTick rfl rfl
  | succ left inductionHypothesis =>
      intro index fifo pending count
      have more : 59 * (index + 1) < message.length := by
        rw [chunkCount] at count
        omega
      have ticked : (peer.tick fifo).pending = message.take (59 * index) := pending
      have kept : (peer.device.write handle (outputReport message index) fifo).2 =
          { peer.tick fifo with pending := message.take (59 * (index + 1)) } :=
        accept_part declared ticked more
      rw [List.range'_succ, List.map_cons, List.foldl_cons, kept]
      apply (inductionHypothesis (index + 1) _ rfl (by omega)).afterTick
      · rfl
      · rfl

/-- The queue once a request has been written. -/
theorem requested {apdu : Apdu} (small : apdu.payloadSize ≤ 255) {world : World Fifo}
    (mutex : Mutex) (handle : Handle) (pending : world.env.pending = []) :
    peer.Requested apdu.encoded world.env
      (world.afterWrites peer.device mutex handle (requestReports apdu)).env := by
  have size := Apdu.encoded_length small
  have length : (requestMessage apdu.encoded).length = apdu.encoded.length + 2 := by
    rw [requestMessage, List.length_append, bigEndian_length, Nat.add_comm]
  have leading : (requestMessage apdu.encoded).take 2 = bigEndian 2 apdu.encoded.length :=
    List.take_left' (bigEndian_length 2 _)
  have content : (requestMessage apdu.encoded).drop 2 = apdu.encoded :=
    List.drop_left' (bigEndian_length 2 _)
  have declared : ofBigEndian ((requestMessage apdu.encoded).take 2) + 2 =
      (requestMessage apdu.encoded).length := by
    rw [leading, ofBigEndian_bigEndian_of_lt (by omega), length]
  obtain ⟨left, count⟩ : ∃ left, chunkCount 59 (requestMessage apdu.encoded).length =
      0 + (left + 1) :=
    ⟨chunkCount 59 (requestMessage apdu.encoded).length - 1, by rw [chunkCount]; omega⟩
  have written := @requested_of_writes peer _ declared handle left 0 world.env pending count
  rw [content] at written
  rw [World.afterWrites_env, requestReports, outputReports, count, Nat.zero_add,
    List.range_eq_range']
  exact written

end Peer

namespace FrameIoApdu

/-! ## A report that is read -/

/-- Without a status pointer the response is decoded all the same. -/
theorem decode_withoutStatus {respLen : UInt16} {buffer response : Bytes}
    {preset status : UInt16}
    (decoded : decode respLen buffer (some preset) = .ok (response, some status))
    (statusCode : Option UInt16) :
    decode respLen buffer statusCode = .ok (response, statusCode.map fun _ => status) := by
  rw [decode] at decoded ⊢
  split at decoded
  next long =>
    rw [if_pos long]
    split at decoded
    next resp respCode _ _ =>
      simp only [Option.map_some, Except.ok.injEq, Prod.mk.injEq, Option.some.injEq] at decoded
      obtain ⟨rfl, rfl⟩ := decoded
      rfl
    next => simp at decoded
  next short =>
    rw [if_neg short]
    simp only [Option.map_some, Except.ok.injEq, Prod.mk.injEq, Option.some.injEq] at decoded
    obtain ⟨rfl, rfl⟩ := decoded
    rfl

/-- An exchange that returns leaves clean counters. -/
theorem receive_clean {framer : FrameIoApdu} {statusCode : Option UInt16}
    {results : List ReadResult} {answer : Bytes × Option UInt16}
    (returned : (framer.receive statusCode results).outcome = .ok answer) :
    (framer.receive statusCode results).framer.mOffset = 0 ∧
      (framer.receive statusCode results).framer.rn = 0 := by
  cases results with
  | nil => simp [receive] at returned
  | cons first rest =>
      rw [receive] at returned ⊢
      rcases absorbed : framer.absorb (List.replicate 255 0) first with ⟨reason | buffer, next⟩
      · rw [absorbed] at returned
        exact absurd returned (by simp)
      · rw [absorbed] at returned
        rcases gathered : (gather (declaredTotal buffer).toNat next buffer rest).outcome with
          reason | reached
        · simp [gathered] at returned
        · simp only [gathered] at returned ⊢
          rw [returned]
          exact ⟨rfl, rfl⟩

/-- The counters between two exchanges. -/
structure Clean (framer : FrameIoApdu) : Prop where
  offset : framer.mOffset = 0
  count : framer.rn = 0

/-- The oldest report decides the exchange, and the counters stay clean. -/
theorem Clean.receive {framer : FrameIoApdu} (clean : framer.Clean) (entry : Queued)
    (statusCode : Option UInt16) (more : List ReadResult) :
    let received := framer.restarted.receive statusCode (.ofReport entry.report :: more)
    received.outcome = entry.outcome statusCode ∧ received.calls = 1 ∧
      received.framer.Clean := by
  intro received
  cases entry with
  | foreign stray =>
      have whole := ofReport_buffer (Queued.report_length (.foreign stray))
      have bad : headerFault framer.restarted.mSeq ((ReadResult.ofReport stray.report).buffer 64) =
          some stray.fault := by
        rw [show (ReadResult.ofReport stray.report).buffer 64 = stray.report from whole]
        exact (Option.some_get _).symm
      have refused := @absorb_of_fault framer.restarted (.ofReport stray.report) _ rfl
        (show toSizeT 64 = 64 by decide) bad (List.replicate 255 0)
      have same : received = ⟨.error (.throws stray.fault), { framer.restarted with
          mBuffer := (ReadResult.ofReport stray.report).buffer 64 }, 1⟩ := by
        simp only [received, FrameIoApdu.receive, Queued.report, refused]
      rw [same]
      exact ⟨rfl, rfl, clean.offset, clean.count⟩
  | response number answer =>
      have length : answer.message.length = answer.data.length + 4 :=
        responseMessage_length answer.data answer.status
      have fits := answer.fits
      have one : reportsRead answer.message.length = 1 := by
        rw [reportsRead, chunkCount]
        omega
      have reports : inputReports answer.message = [inputReport answer.message 0] := by
        have count : chunkCount 59 answer.message.length = 1 := by
          unfold chunkCount
          omega
        rw [inputReports, count]
        rfl
      have counted : framer.restarted.Counted 0 := ⟨rfl, clean.offset, clean.count⟩
      have declared : answer.message.take 2 = bigEndian 2 (answer.message.length - 2) := by
        rw [Answer.message, responseMessage_take, responseMessage_length]
        rfl
      obtain ⟨outcome, calls⟩ := receive_inputReports counted declared (by omega) (by omega)
        statusCode more
      rw [reports, List.map_singleton, List.singleton_append, one] at outcome calls
      have agrees : decode (.ofNat (answer.data.length + 4)) (assembled answer.message 1)
          (some 0) = .ok (answer.data, some answer.status) := by
        rw [decode_eq_iff answer.data answer.status 0 _ (by omega), assembled_length]
        refine ⟨by omega, fun position _ within => ?_⟩
        rw [byteAt_assembled, if_pos (by omega)]
        rfl
      have returned : received.outcome = .ok (answer.returned statusCode) := by
        rw [show received.outcome = _ from outcome, length]
        exact decode_withoutStatus agrees statusCode
      obtain ⟨offset, count⟩ := receive_clean returned
      exact ⟨returned, calls, offset, count⟩

end FrameIoApdu

/-! ## An exchange with the device -/

namespace Peer

/-- What an exchange does with the queue: behind the old reports come foreign
ones, the answer to this request and foreign ones again, and the oldest report
of all is read. -/
structure Fetched (peer : Peer) (request : Bytes) (before after : Fifo) (entry : Queued) :
    Prop where
  queue : ∃ early late : List Stray, (∀ stray ∈ early ++ late, peer.Sends stray) ∧
    before.queue ++ early.map .foreign ++
        .response before.answered (peer.respond before.answered request) ::
          late.map .foreign = entry :: after.queue
  pending : after.pending = []
  answered : after.answered = before.answered + 1

variable {peer : Peer} {request : Bytes} {before after : Fifo} {entry : Queued}

/-- The oldest report is an old one, if there is any. -/
theorem Fetched.entry_cases (fetched : peer.Fetched request before after entry) :
    before.queue.head? = some entry ∨ before.queue = [] ∧
      ((∃ stray, entry = .foreign stray) ∨
        entry = .response before.answered (peer.respond before.answered request)) := by
  obtain ⟨early, late, _, same⟩ := fetched.queue
  rcases old : before.queue with _ | ⟨oldest, rest⟩
  · rw [old, List.nil_append] at same
    rcases early with _ | ⟨stray, early⟩
    · exact .inr ⟨rfl, .inr (List.cons.inj same).1.symm⟩
    · exact .inr ⟨rfl, .inl ⟨stray, (List.cons.inj same).1.symm⟩⟩
  · rw [old] at same
    rw [List.head?_cons, (List.cons.inj same).1]
    exact .inl rfl

/-- Behind foreign reports the own answer is read last of all that were there. -/
theorem Fetched.foreign_behind (fetched : peer.Fetched request before after entry)
    (old : ∀ item ∈ before.queue, ∃ stray, item = .foreign stray)
    {number : Nat} {answer : Answer} (own : entry = .response number answer) :
    ∀ item ∈ after.queue, ∃ stray, peer.Sends stray ∧ item = .foreign stray := by
  obtain ⟨early, late, sends, same⟩ := fetched.queue
  rcases waiting : before.queue with _ | ⟨oldest, rest⟩
  all_goals
    rw [own, waiting] at same
  · rcases early with _ | ⟨stray, early⟩
    · rw [List.map_nil, List.nil_append, List.nil_append, List.cons.injEq] at same
      intro item member
      rw [← same.2] at member
      obtain ⟨stray, inside, rfl⟩ := List.mem_map.mp member
      exact ⟨stray, sends stray inside, rfl⟩
    · simp at same
  · rw [waiting] at old
    obtain ⟨stray, foreign⟩ := old oldest List.mem_cons_self
    simp [foreign] at same

/-- Where a report of the queue comes from. -/
theorem Fetched.mem_cases (fetched : peer.Fetched request before after entry) {item : Queued}
    (member : item = entry ∨ item ∈ after.queue) :
    item ∈ before.queue ∨ (∃ stray, peer.Sends stray ∧ item = .foreign stray) ∨
      item = .response before.answered (peer.respond before.answered request) := by
  obtain ⟨early, late, sends, same⟩ := fetched.queue
  have within : item ∈ before.queue ++ early.map .foreign ++
      .response before.answered (peer.respond before.answered request) ::
        late.map .foreign := by
    rw [same]
    exact List.mem_cons.mpr member
  rcases List.mem_append.mp within with earlier | later
  · rcases List.mem_append.mp earlier with old | arrived
    · exact .inl old
    · obtain ⟨stray, inside, rfl⟩ := List.mem_map.mp arrived
      exact .inr (.inl ⟨stray, sends stray (List.mem_append_left late inside), rfl⟩)
  · rcases List.mem_cons.mp later with own | arrived
    · exact .inr (.inr own)
    · obtain ⟨stray, inside, rfl⟩ := List.mem_map.mp arrived
      exact .inr (.inl ⟨stray, sends stray (List.mem_append_right early inside), rfl⟩)

end Peer

theorem Queued.outcome_ended (resCode : Option UInt16) (entry : Queued) :
    Ended (entry.outcome resCode) := by
  cases entry <;> trivial

/-- An exchange with the device reads the oldest report and no other. -/
theorem FrameIoApdu.exchange_fetches (tb : Toolbox) {peer : Peer} {framer : FrameIoApdu}
    {world : World Fifo} {handle : Handle} {apdu : Apdu} (small : apdu.payloadSize ≤ 255)
    (live : framer.mIo.mDev = some handle) (free : framer.mIo.mDevLock ∉ world.held)
    (room : framer.mBuffer.length ≤ 64) (clean : framer.Clean)
    (pending : world.env.pending = []) (resCode : Option UInt16) :
    ∃ entry next reached,
      (exchange tb peer.device apdu resCode).run ⟨framer, world⟩ =
        (entry.outcome resCode, ⟨next, reached⟩) ∧
      next.Clean ∧ peer.Fetched apdu.encoded world.env reached.env entry := by
  let mutex := framer.mIo.mDevLock
  let sent := world.afterWrites peer.device mutex handle (requestReports apdu)
  have requested : peer.Requested apdu.encoded world.env sent.env :=
    Peer.requested small mutex handle pending
  obtain ⟨early, sends, queue⟩ := requested.queue
  let late := peer.strays sent.env.clock
  have arrived : (peer.tick sent.env).queue = sent.env.queue ++ late.map .foreign := rfl
  rcases waiting : (peer.tick sent.env).queue with _ | ⟨entry, rest⟩
  · rw [waiting, queue] at arrived
    simp at arrived
  · let left : Fifo := { peer.tick sent.env with queue := rest }
    have read : peer.device.read handle 64 sent.env =
        (some (.ofReport entry.report), left) := by
      show Peer.fetch (peer.tick sent.env) = _
      rw [Peer.fetch, waiting]
      rfl
    have answers : peer.device.answers handle (65535 + 1) sent.env =
        .ofReport entry.report :: peer.device.answers handle 65535 left := by
      rw [Hidapi.answers, read]
    have ran := @exchange_run _ tb peer.device framer world handle apdu resCode _ small live free
      room (Nat.le_refl (65535 + 1))
    obtain ⟨outcome, calls, cleanNext⟩ :=
      clean.receive entry resCode (peer.device.answers handle 65535 left)
    dsimp only at ran
    rw [answers, outcome, calls] at ran
    refine ⟨entry, _, _, ran, cleanNext, ?_⟩
    have reads : (sent.afterReads peer.device mutex handle 1).env = left := by
      simp only [World.afterReads, read]
      rfl
    exact {
      queue := by
        rw [reads]
        refine ⟨early, late, ?_, ?_⟩
        · intro stray member
          rcases List.mem_append.mp member with before | after
          · exact sends stray before
          · exact ⟨sent.env.clock, after⟩
        · rw [← waiting, arrived, queue]
          simp only [List.append_assoc, List.singleton_append]
      pending := by
        rw [reads]
        exact requested.pending
      answered := by
        rw [reads]
        exact requested.answered }

end MhWallet
