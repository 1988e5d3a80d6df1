import MhWallet.Framing.Wire

/-!
Contract: what the framer does with the returns of `hid_read`, without the
device and the world around it.

Owns: the verdict on a report header, the step that one return of `hid_read`
makes, the fold of the read loop over a list of returns, and the equations that
identify `frame_io::read` and the loop of `frame_io_apdu::exchange` with them.

Does not own: which returns a device gives.
-/

namespace MhWallet

open MhWallet.Bytes MhWallet.Effect MhWallet.Method

theorem ReadResult.buffer_length (result : ReadResult) (readLen : Nat) :
    (result.buffer readLen).length = readLen := by
  simp only [buffer, List.length_append, List.length_take, List.length_replicate]
  omega

/-! ## One report -/

def channelIdOf (report : Bytes) : UInt16 := .ofNat (ofBigEndian (report.take 2))

def commandTagOf (report : Bytes) : UInt8 := byteAt report 2

def seqOf (report : Bytes) : UInt16 := .ofNat (ofBigEndian ((report.drop 3).take 2))

/-- The exception that a report header raises when `seq` is expected. -/
def headerFault (seq : UInt16) (report : Bytes) : Option Exception :=
  if channelIdOf report ≠ 0x0101 then some (.badChannelId (channelIdOf report))
  else if commandTagOf report ≠ 0x05 then some (.badCommandTag (commandTagOf report))
  else if seqOf report ≠ seq then some (.wrongSeqno seq (seqOf report))
  else none

namespace FrameIo

variable {σ : Type} (tb : Toolbox) {framer : FrameIo} {world : World σ}

/-- Where the content of the next report goes. -/
def writePosition (framer : FrameIo) : Nat :=
  if framer.mSeq = 0 then 0 else framer.mOffset - 5

/-- The counters after a report that was accepted. -/
def advance (framer : FrameIo) : FrameIo :=
  { framer with mSeq := framer.mSeq + 1, mOffset := framer.mOffset + 64 }

theorem accept_run (full : framer.mBuffer.length = 64) (out : Bytes) :
    (accept tb out).run ⟨framer, world⟩ =
      match headerFault framer.mSeq framer.mBuffer with
      | some fault => (.error (.throws fault), ⟨framer, world⟩)
      | none =>
          (.ok (59, overwrite out framer.writePosition (framer.mBuffer.drop 5)),
            ⟨framer.advance, world⟩) := by
  have tagWithin : framer.mBuffer[2]? = some (commandTagOf framer.mBuffer) := by
    rw [commandTagOf, byteAt_eq_getElem (by omega), List.getElem?_eq_getElem (by omega)]
  have contentLength : (framer.mBuffer.drop 5).length = 59 := by
    rw [List.length_drop, full]
  have contentWhole : (framer.mBuffer.drop 5).take (framer.mBuffer.length - 5) =
      framer.mBuffer.drop 5 :=
    List.take_of_length_le (Nat.le_of_eq List.length_drop)
  simp only [accept, Action.run_bind, run_self, Toolbox.toUInt16_eq, Toolbox.at?_eq,
    Toolbox.takeRangeFrom_eq, Toolbox.write_eq]
  rw [slice?_of_le (by omega) (by omega), slice?_of_le (by omega) (by omega),
    slice?_of_le (by omega) (by omega), tagWithin, contentWhole]
  simp only [Option.map_some, run_orOutOfRange_some, headerFault, channelIdOf, seqOf,
    List.drop_zero, Nat.sub_zero, Nat.add_sub_cancel_left, Nat.zero_add]
  by_cases channel : UInt16.ofNat (ofBigEndian (framer.mBuffer.take 2)) = 0x0101
  · by_cases tag : commandTagOf framer.mBuffer = 0x05
    · by_cases seq : UInt16.ofNat (ofBigEndian ((framer.mBuffer.drop 3).take 2)) =
          framer.mSeq
      · simp only [channel, tag, seq, ne_eq, not_true_eq_false, if_false,
          Action.run_bind, run_orOutOfRange_some, run_updateSelf, Action.run_pure,
          writePosition, advance]
        split <;> simp only [contentLength]
      · simp only [channel, tag, seq, ne_eq, not_true_eq_false, not_false_eq_true,
          if_false, if_true, run_throw]
    · simp only [channel, tag, ne_eq, not_true_eq_false, not_false_eq_true, if_false,
        if_true, run_throw]
  · simp only [channel, ne_eq, not_false_eq_true, if_true, run_throw]

end FrameIo

/-! ## One return of `hid_read` -/

namespace FrameIoApdu

variable {σ : Type} (tb : Toolbox) (hid : Hidapi σ) {framer : FrameIoApdu}
  {world : World σ}

/-- The framer after `frame_io::read` accepted a report. -/
def advance (framer : FrameIoApdu) : FrameIoApdu :=
  { toFrameIo := framer.toFrameIo.advance, rn := framer.rn + 64 }

/-- `rn += read(buffer) + 5` on one return of `hid_read`: the buffer or the stop,
and the framer after. -/
def absorb (framer : FrameIoApdu) (buffer : Bytes) (result : ReadResult) :
    Except Stop Bytes × FrameIoApdu :=
  match result.error with
  | some _ => (.error (.deadlocks framer.mIo.mDevLock), framer)
  | none =>
      let framer := { framer with mBuffer := result.buffer 64 }
      if toSizeT result.res ≠ 64 then (.ok buffer, { framer with rn := framer.rn + 5 })
      else
        match headerFault framer.mSeq framer.mBuffer with
        | some fault => (.error (.throws fault), framer)
        | none =>
            (.ok (overwrite buffer framer.writePosition (framer.mBuffer.drop 5)),
              framer.advance)

/-- What a return of `hid_read` that did not stop the call has done. -/
theorem absorb_ok {buffer reached : Bytes} {result : ReadResult} {next : FrameIoApdu}
    (absorbed : framer.absorb buffer result = (.ok reached, next)) :
    result.error = none ∧
      ((toSizeT result.res ≠ 64 ∧ reached = buffer ∧
          next = { framer with mBuffer := result.buffer 64, rn := framer.rn + 5 }) ∨
        (toSizeT result.res = 64 ∧ headerFault framer.mSeq (result.buffer 64) = none ∧
          reached = overwrite buffer framer.writePosition ((result.buffer 64).drop 5) ∧
          next = { framer with mBuffer := result.buffer 64 : FrameIoApdu }.advance)) := by
  rw [absorb] at absorbed
  split at absorbed
  next message failure => simp at absorbed
  next clean =>
    refine ⟨clean, ?_⟩
    by_cases full : toSizeT result.res = 64
    · simp only [full, ne_eq, not_true_eq_false, if_false] at absorbed
      split at absorbed
      next fault bad => simp at absorbed
      next good =>
        simp only [Prod.mk.injEq, Except.ok.injEq] at absorbed
        exact .inr ⟨full, good, absorbed.1.symm, absorbed.2.symm⟩
    · simp only [full, ne_eq, not_false_eq_true, if_true, Prod.mk.injEq,
        Except.ok.injEq] at absorbed
      exact .inl ⟨full, absorbed.1.symm, absorbed.2.symm⟩

/-- A return that makes the call throw came without an error. -/
theorem absorb_clean {buffer : Bytes} {result : ReadResult} {next : FrameIoApdu}
    {reason : Stop} (absorbed : framer.absorb buffer result = (.error reason, next))
    (unwinds : reason.Unwinds) : result.error = none := by
  rw [absorb] at absorbed
  split at absorbed
  next message failure =>
    simp only [Prod.mk.injEq, Except.error.injEq] at absorbed
    obtain ⟨rfl, -⟩ := absorbed
    simp [Stop.Unwinds] at unwinds
  next clean => exact clean

/-- A return of `hid_read` never has undefined behaviour. -/
theorem absorb_defined (buffer : Bytes) (result : ReadResult) :
    (framer.absorb buffer result).1 ≠ .error .undefined := by
  unfold absorb
  split
  · simp
  · dsimp only
    split
    · simp
    · split <;> simp

/-- A return never touches the device object or the report size. -/
theorem absorb_frame (buffer : Bytes) (result : ReadResult)
    (room : framer.mBuffer.length ≤ 64) :
    (framer.absorb buffer result).2.mIo = framer.mIo ∧
      (framer.absorb buffer result).2.mBuffer.length ≤ 64 := by
  unfold absorb
  split
  · exact ⟨rfl, room⟩
  · have size : (result.buffer 64).length ≤ 64 :=
      Nat.le_of_eq (ReadResult.buffer_length result 64)
    dsimp only
    split
    · exact ⟨rfl, size⟩
    · split
      · exact ⟨rfl, size⟩
      · exact ⟨rfl, size⟩

/-- A return that did not stop the call brings the count forward and shortens
no buffer. -/
theorem absorb_progress {buffer reached : Bytes} {result : ReadResult}
    {next : FrameIoApdu} (absorbed : framer.absorb buffer result = (.ok reached, next)) :
    framer.rn + 5 ≤ next.rn ∧ buffer.length ≤ reached.length := by
  obtain ⟨-, ⟨-, rfl, rfl⟩ | ⟨-, -, rfl, rfl⟩⟩ := absorb_ok absorbed
  · exact ⟨Nat.le_refl _, Nat.le_refl _⟩
  · refine ⟨?_, ?_⟩
    · simp only [advance]
      omega
    · rw [overwrite_length]
      exact Nat.le_max_left _ _

/-- The outcome of a read of the device. -/
def afterAnswer (framer : FrameIoApdu) (world : World σ) (handle : Handle)
    (buffer : Bytes) : Option ReadResult × σ →
    Except Stop Bytes × Scene FrameIoApdu σ
  | (none, env) =>
      (.error .waits, ⟨framer, world.afterWait framer.mIo.mDevLock handle env⟩)
  | (some result, env) =>
      ((framer.absorb buffer result).1,
        ⟨(framer.absorb buffer result).2,
          world.afterRead framer.mIo.mDevLock handle env result⟩)

theorem readMore_run {handle : Handle} (live : framer.mIo.mDev = some handle)
    (free : framer.mIo.mDevLock ∉ world.held)
    (room : framer.mBuffer.length ≤ 64) (buffer : Bytes) :
    (readMore tb hid buffer).run ⟨framer, world⟩ =
      framer.afterAnswer world handle buffer (hid.read handle 64 world.env) := by
  have liveBase : framer.toFrameIo.mIo.mDev = some handle := live
  simp only [readMore, Action.run_bind, run_onMember, FrameIo.read, run_self,
    FrameIo.io, frameIo, HidppDevice.read_run tb hid liveBase free]
  rcases hid.read handle 64 world.env with ⟨result | result, env⟩
  · rfl
  · rcases failure : result.error with _ | message
    · have whole : overwrite framer.mBuffer 0 (result.buffer 64) = result.buffer 64 :=
        overwrite_zero_of_length (by rw [ReadResult.buffer_length]; exact room)
      simp only [afterAnswer, absorb, failure, run_updateSelf, whole, Action.run_ite]
      by_cases short : toSizeT result.res = 64
      · simp only [short, ne_eq, not_true_eq_false, if_false]
        rw [FrameIo.accept_run tb (by exact ReadResult.buffer_length result 64)]
        rcases headerFault framer.mSeq (result.buffer 64) with _ | fault <;> rfl
      · simp only [short, ne_eq, not_false_eq_true, if_true, Action.run_pure]
    · simp only [afterAnswer, absorb, failure]

end FrameIoApdu

/-! ## The read loop -/

/-- The next returns of `hid_read`, at most `count` of them and up to a call
that waits. -/
def Hidapi.answers {σ : Type} (hid : Hidapi σ) (handle : Handle) :
    (count : Nat) → σ → List ReadResult
  | 0, _ => []
  | count + 1, env =>
      match hid.read handle 64 env with
      | (none, _) => []
      | (some result, env) => result :: answers hid handle count env

/-- The world after `calls` reads of the device. -/
def World.afterReads {σ : Type} (hid : Hidapi σ) (mutex : Mutex) (handle : Handle) :
    (calls : Nat) → World σ → World σ
  | 0, world => world
  | calls + 1, world =>
      match hid.read handle 64 world.env with
      | (none, env) => world.afterWait mutex handle env
      | (some result, env) =>
          afterReads hid mutex handle calls (world.afterRead mutex handle env result)

/-- Reads that a device delivers come first among its answers. -/
theorem Hidapi.Delivers.answers {σ : Type} {hid : Hidapi σ} {handle : Handle}
    {results : List ReadResult} {env : σ} (delivers : hid.Delivers handle results env)
    {count : Nat} (bound : results.length ≤ count) :
    ∃ more, hid.answers handle count env = results ++ more := by
  induction results generalizing env count with
  | nil => exact ⟨_, rfl⟩
  | cons result results inductionHypothesis =>
      obtain ⟨count, rfl⟩ : ∃ fewer, count = fewer + 1 :=
        ⟨count - 1, by rw [List.length_cons] at bound; omega⟩
      obtain ⟨first, later⟩ := delivers
      obtain ⟨more, rest⟩ := inductionHypothesis later (Nat.le_of_succ_le_succ bound)
      refine ⟨more, ?_⟩
      unfold Hidapi.answers
      rcases answer : hid.read handle 64 env with ⟨_ | given, next⟩
      · rw [answer] at first
        simp at first
      · rw [answer] at first rest
        simp only [Option.some.injEq] at first
        simp only [first, rest, List.cons_append]

theorem Hidapi.answers_take {σ : Type} (hid : Hidapi σ) (handle : Handle)
    {calls count : Nat} (fewer : calls ≤ count) (env : σ) :
    (hid.answers handle count env).take calls = hid.answers handle calls env := by
  induction calls generalizing count env with
  | zero => rfl
  | succ calls inductionHypothesis =>
      obtain ⟨count, rfl⟩ : ∃ less, count = less + 1 := ⟨count - 1, by omega⟩
      rw [answers, answers]
      rcases hid.read handle 64 env with ⟨_ | result, next⟩
      · rfl
      · simp only [List.take_succ_cons]
        rw [inductionHypothesis (Nat.le_of_succ_le_succ fewer)]

theorem Script.answers (handle : Handle) (count : Nat) (script : Script) :
    Script.device.answers handle count script = script.reads.take count := by
  induction count generalizing script with
  | zero => rfl
  | succ count inductionHypothesis =>
      have answer : Script.device.read handle 64 script =
          (script.reads.head?, { script with reads := script.reads.tail }) := rfl
      rw [Hidapi.answers, answer]
      rcases script.reads with _ | ⟨result, results⟩
      · rfl
      · simp only [List.head?_cons, List.tail_cons, List.take_succ_cons]
        rw [inductionHypothesis]

theorem Hidapi.answers_length_le {σ : Type} (hid : Hidapi σ) (handle : Handle)
    (count : Nat) (env : σ) : (hid.answers handle count env).length ≤ count := by
  induction count generalizing env with
  | zero => exact Nat.le_refl 0
  | succ count inductionHypothesis =>
      unfold answers
      split
      · exact Nat.zero_le _
      · rw [List.length_cons]
        exact Nat.succ_le_succ (inductionHypothesis _)

/-- The events of a read that came back. -/
def readEvents (mutex : Mutex) (handle : Handle) (result : ReadResult) : List Event :=
  [.lock mutex, .hidRead (some handle) (some result), .hidError handle result.error] ++
    match result.error with
    | none => [.unlock mutex]
    | some _ => [.lock mutex]

/-- The events of a read that never comes back. -/
def waitEvents (mutex : Mutex) (handle : Handle) : List Event :=
  [.lock mutex, .hidRead (some handle) none]

/-- The events of this many reads, of which these came back. -/
def readTrace (mutex : Mutex) (handle : Handle) (calls : Nat) (results : List ReadResult) :
    List Event :=
  results.flatMap (readEvents mutex handle) ++
    if results.length < calls then waitEvents mutex handle else []

theorem World.afterReads_log {σ : Type} (hid : Hidapi σ) (mutex : Mutex)
    (handle : Handle) (calls : Nat) (world : World σ) :
    (world.afterReads hid mutex handle calls).log =
      world.log ++ readTrace mutex handle calls (hid.answers handle calls world.env) := by
  induction calls generalizing world with
  | zero => simp [afterReads, Hidapi.answers, readTrace]
  | succ calls inductionHypothesis =>
      rw [afterReads, Hidapi.answers]
      rcases hid.read handle 64 world.env with ⟨_ | result, env⟩
      · simp [afterWait, extend, waitEvents, readTrace]
      · have sameEnv : (world.afterRead mutex handle env result).env = env := by
          unfold afterRead
          split <;> rfl
        have logged : (world.afterRead mutex handle env result).log =
            world.log ++ readEvents mutex handle result := by
          rw [afterRead, readEvents]
          split <;> simp [extend, *]
        dsimp only
        rw [inductionHypothesis, sameEnv, logged]
        simp only [readTrace, List.flatMap_cons, List.length_cons, Nat.add_lt_add_iff_right,
          List.append_assoc]

/-- Reads that came back without an error change the environment and the log
alone. -/
theorem World.afterReads_eq {σ : Type} (hid : Hidapi σ) (mutex : Mutex) (handle : Handle)
    (calls : Nat) (world : World σ)
    (answered : calls ≤ (hid.answers handle calls world.env).length)
    (clean : ∀ result ∈ hid.answers handle calls world.env, result.error = none) :
    world.afterReads hid mutex handle calls =
      world.extend (world.afterReads hid mutex handle calls).env
        ((hid.answers handle calls world.env).flatMap (readEvents mutex handle)) := by
  induction calls generalizing world with
  | zero => simp [afterReads, extend, Hidapi.answers]
  | succ calls inductionHypothesis =>
      rw [Hidapi.answers] at answered clean ⊢
      unfold afterReads
      rcases answer : hid.read handle 64 world.env with ⟨_ | result, env⟩
      · simp [answer] at answered
      · simp only [answer] at answered clean ⊢
        have noError := clean result List.mem_cons_self
        have after : world.afterRead mutex handle env result =
            world.extend env (readEvents mutex handle result) := by
          rw [afterRead, readEvents]
          simp [noError]
        rw [after, inductionHypothesis (world.extend env (readEvents mutex handle result))
          (Nat.le_of_succ_le_succ answered)
          (fun result member => clean result (List.mem_cons_of_mem _ member))]
        simp only [extend, List.flatMap_cons, List.append_assoc]

/-! ## The reads and the writes in a log -/

def Event.readResult? : Event → Option (Option ReadResult)
  | .hidRead _ result => some result
  | _ => none

/-- The results of the calls of `hid_read` among these events. -/
def readResults (events : List Event) : List (Option ReadResult) :=
  events.filterMap Event.readResult?

theorem readResults_append (first second : List Event) :
    readResults (first ++ second) = readResults first ++ readResults second :=
  List.filterMap_append

theorem readResults_readEvents (mutex : Mutex) (handle : Handle)
    (results : List ReadResult) :
    readResults (results.flatMap (readEvents mutex handle)) = results.map some := by
  induction results with
  | nil => rfl
  | cons result results inductionHypothesis =>
      have head : readResults (readEvents mutex handle result) = [some result] := by
        unfold readEvents
        split <;> rfl
      rw [List.flatMap_cons, readResults_append, head, inductionHypothesis]
      rfl

theorem readResults_writes (mutex : Mutex) (handle : Handle) (reports : List Bytes) :
    readResults (reports.flatMap fun report =>
      [.lock mutex, .hidWrite (some handle) report, .unlock mutex]) = [] := by
  induction reports with
  | nil => rfl
  | cons report reports inductionHypothesis =>
      rw [List.flatMap_cons, readResults_append, inductionHypothesis]
      rfl

def Event.writtenReport? : Event → Option Bytes
  | .hidWrite _ data => some data
  | _ => none

/-- The reports passed to `hid_write` among these events. -/
def writtenReports (events : List Event) : List Bytes :=
  events.filterMap Event.writtenReport?

theorem writtenReports_append (first second : List Event) :
    writtenReports (first ++ second) = writtenReports first ++ writtenReports second :=
  List.filterMap_append

theorem writtenReports_reads (mutex : Mutex) (handle : Handle) (results : List ReadResult) :
    writtenReports (results.flatMap (readEvents mutex handle)) = [] := by
  induction results with
  | nil => rfl
  | cons result results inductionHypothesis =>
      have head : writtenReports (readEvents mutex handle result) = [] := by
        unfold readEvents
        split <;> rfl
      rw [List.flatMap_cons, writtenReports_append, head, inductionHypothesis]
      rfl

theorem writtenReports_readTrace (mutex : Mutex) (handle : Handle) (calls : Nat)
    (results : List ReadResult) :
    writtenReports (readTrace mutex handle calls results) = [] := by
  rw [readTrace, writtenReports_append, writtenReports_reads]
  split <;> rfl

theorem writtenReports_writes (mutex : Mutex) (handle : Handle) (reports : List Bytes) :
    writtenReports (reports.flatMap fun report =>
      [.lock mutex, .hidWrite (some handle) report, .unlock mutex]) = reports := by
  induction reports with
  | nil => rfl
  | cons report reports inductionHypothesis =>
      rw [List.flatMap_cons, writtenReports_append, inductionHypothesis]
      rfl

/-- The reads since an earlier world. -/
def World.readsSince {σ : Type} (reached world : World σ) : List (Option ReadResult) :=
  readResults (reached.log.drop world.log.length)

/-- The reports written since an earlier world. -/
def World.writesSince {σ : Type} (reached world : World σ) : List Bytes :=
  writtenReports (reached.log.drop world.log.length)

/-- How the read loop ends, the framer it leaves and the reads it made. -/
structure Intake where
  outcome : Except Stop Bytes
  framer : FrameIoApdu
  calls : Nat

def Intake.oneMore (intake : Intake) : Intake :=
  { intake with calls := intake.calls + 1 }

namespace FrameIoApdu

variable {σ : Type} (tb : Toolbox) (hid : Hidapi σ)

/-- The read loop on a list of returns; past its end a read waits. -/
def gather (respLen : Nat) (framer : FrameIoApdu) (buffer : Bytes) :
    List ReadResult → Intake
  | [] =>
      if framer.rn < respLen then ⟨.error .waits, framer, 1⟩
      else ⟨.ok buffer, framer, 0⟩
  | result :: results =>
      if framer.rn < respLen then
        match framer.absorb buffer result with
        | (.error reason, framer) => ⟨.error reason, framer, 1⟩
        | (.ok buffer, framer) => (gather respLen framer buffer results).oneMore
      else ⟨.ok buffer, framer, 0⟩

theorem gather_of_le {respLen : Nat} {framer : FrameIoApdu} (enough : respLen ≤ framer.rn)
    (buffer : Bytes) (results : List ReadResult) :
    gather respLen framer buffer results = ⟨.ok buffer, framer, 0⟩ := by
  cases results with
  | nil => rw [gather, if_neg (Nat.not_lt.mpr enough)]
  | cons result results => rw [gather, if_neg (Nat.not_lt.mpr enough)]

/-- A loop that ends has taken its reads from the list, and none of them came
with an error. -/
theorem gather_ended {respLen : Nat} {framer : FrameIoApdu} {buffer : Bytes}
    {results : List ReadResult} (ended : Ended (gather respLen framer buffer results).outcome) :
    (gather respLen framer buffer results).calls ≤ results.length ∧
      ∀ result ∈ results.take (gather respLen framer buffer results).calls,
        result.error = none := by
  induction results generalizing framer buffer with
  | nil =>
      rw [gather] at ended ⊢
      split at ended
      · simp [Ended, Stop.Unwinds] at ended
      · simp [*]
  | cons result results inductionHypothesis =>
      rw [gather] at ended ⊢
      split at ended
      next more =>
        rw [if_pos more]
        rcases absorbed : framer.absorb buffer result with ⟨reason | reached, next⟩
        · rw [absorbed] at ended
          simp only [List.length_cons, Nat.le_add_left, List.take_succ_cons, List.take_zero,
            List.mem_singleton, forall_eq, true_and]
          exact absorb_clean absorbed ended
        · rw [absorbed] at ended
          obtain ⟨fewer, clean⟩ := inductionHypothesis ended
          simp only [Intake.oneMore, List.length_cons, Nat.add_le_add_iff_right,
            List.take_succ_cons, List.mem_cons, forall_eq_or_imp]
          exact ⟨fewer, (absorb_ok absorbed).1, clean⟩
      next enough => simp [enough]

theorem gather_defined (respLen : Nat) (framer : FrameIoApdu) (buffer : Bytes)
    (results : List ReadResult) :
    (gather respLen framer buffer results).outcome ≠ .error .undefined := by
  induction results generalizing framer buffer with
  | nil =>
      rw [gather]
      split <;> simp
  | cons result results inductionHypothesis =>
      have defined := @absorb_defined framer buffer result
      rw [gather]
      split
      · rcases absorbed : framer.absorb buffer result with ⟨reason | buffer, next⟩
        · rw [absorbed] at defined
          simpa using defined
        · exact inductionHypothesis next buffer
      · simp

/-- The loop never touches the device object or the report size. -/
theorem gather_frame {respLen : Nat} {framer : FrameIoApdu} {buffer : Bytes}
    {results : List ReadResult} (room : framer.mBuffer.length ≤ 64) :
    (gather respLen framer buffer results).framer.mIo = framer.mIo ∧
      (gather respLen framer buffer results).framer.mBuffer.length ≤ 64 := by
  induction results generalizing framer buffer with
  | nil =>
      unfold gather
      split <;> exact ⟨rfl, room⟩
  | cons result results inductionHypothesis =>
      unfold gather
      split
      · obtain ⟨sameDevice, sameRoom⟩ := absorb_frame buffer result room
        rcases absorbed : framer.absorb buffer result with ⟨reason | reached, next⟩
        · rw [absorbed] at sameDevice sameRoom
          exact ⟨sameDevice, sameRoom⟩
        · rw [absorbed] at sameDevice sameRoom
          obtain ⟨laterDevice, laterRoom⟩ := inductionHypothesis sameRoom
          exact ⟨laterDevice.trans sameDevice, laterRoom⟩
      · exact ⟨rfl, room⟩

theorem readRest_run {handle : Handle} {respLen : UInt16} :
    ∀ (rounds count : Nat) (framer : FrameIoApdu) (buffer : Bytes) (world : World σ),
      framer.mIo.mDev = some handle → framer.mIo.mDevLock ∉ world.held →
      framer.mBuffer.length ≤ 64 → respLen.toNat ≤ framer.rn + rounds →
      rounds ≤ count →
      let intake := gather respLen.toNat framer buffer (hid.answers handle count world.env)
      (readRest tb hid respLen rounds buffer).run ⟨framer, world⟩ =
        (intake.outcome,
          ⟨intake.framer, world.afterReads hid framer.mIo.mDevLock handle intake.calls⟩) := by
  intro rounds
  induction rounds with
  | zero =>
      intro count framer buffer world live free room enough _
      dsimp only
      rw [gather_of_le (by omega), readRest, Action.run_bind, run_self]
      simp only [if_neg (show ¬ framer.rn < respLen.toNat by omega)]
      rfl
  | succ rounds inductionHypothesis =>
      intro count framer buffer world live free room enough bound
      obtain ⟨count, rfl⟩ : ∃ fewer, count = fewer + 1 := ⟨count - 1, by omega⟩
      dsimp only
      by_cases more : framer.rn < respLen.toNat
      · rw [readRest, Action.run_bind, run_self]
        simp only [if_pos more]
        rw [Action.run_bind, readMore_run tb hid live free room, Hidapi.answers]
        rcases answer : hid.read handle 64 world.env with ⟨result | result, env⟩
        · simp only [afterAnswer, gather, if_pos more, World.afterReads, answer]
        · obtain ⟨sameDevice, sameRoom⟩ := absorb_frame buffer result room
          rcases absorbed : framer.absorb buffer result with ⟨reason | reached, next⟩
          · simp only [afterAnswer, gather, if_pos more, absorbed, World.afterReads, answer]
          · rw [absorbed] at sameDevice sameRoom
            have progress := (absorb_progress absorbed).1
            have clean := (absorb_ok absorbed).1
            have sameHeld : (world.afterRead framer.mIo.mDevLock handle env result).held =
                world.held := by
              rw [World.afterRead, clean]
              rfl
            have later := inductionHypothesis count next reached
              (world.afterRead framer.mIo.mDevLock handle env result)
              (by rw [sameDevice]; exact live) (by rw [sameDevice, sameHeld]; exact free)
              sameRoom (by omega) (by omega)
            have sameEnv : (world.afterRead framer.mIo.mDevLock handle env result).env =
                env := by
              rw [World.afterRead, clean]
              rfl
            dsimp only at later
            rw [sameDevice, sameEnv] at later
            simp only [afterAnswer, absorbed, gather, if_pos more, Intake.oneMore,
              World.afterReads, answer]
            exact later
      · rw [gather_of_le (by omega), readRest, Action.run_bind, run_self]
        simp only [if_neg more]
        rfl

end FrameIoApdu

end MhWallet
