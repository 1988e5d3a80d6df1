import MhWallet.Framing.Response

/-!
Contract: what a success status says about the returns of `hid_read`.

The two bytes of the status come from the buffer, which is zero where nothing
was stored.  They are the status of the response if the response fits the
reports that are stored in their places.

Owns: when reads carry a whole response, the responses that the buffer
misplaces, and the conclusion for an exchange that ends with a success.

Does not own: which reads belong to which request.
-/

namespace MhWallet

open MhWallet.Bytes MhWallet.Framing

/-- The full reports among these returns of `hid_read`. -/
def fullReports (results : List ReadResult) : List Bytes :=
  (results.filter fun result => toSizeT result.res = 64).map fun result => result.buffer 64

theorem fullReports_append (first second : List ReadResult) :
    fullReports (first ++ second) = fullReports first ++ fullReports second := by
  rw [fullReports, List.filter_append, List.map_append]
  rfl

theorem fullReports_short {result : ReadResult} (short : toSizeT result.res ≠ 64)
    (results : List ReadResult) : fullReports (result :: results) = fullReports results := by
  rw [fullReports, List.filter_cons_of_neg (by simpa using short)]
  rfl

theorem fullReports_full {result : ReadResult} (full : toSizeT result.res = 64)
    (results : List ReadResult) :
    fullReports (result :: results) = result.buffer 64 :: fullReports results := by
  rw [fullReports, List.filter_cons_of_pos (by simpa using full)]
  rfl

/-- What is behind the headers of these reports. -/
def contentOf (reports : List Bytes) : Bytes := reports.flatMap (List.drop 5)

/-- The size of a message, with its two leading bytes, as its content says. -/
def messageSize (content : Bytes) : Nat := (FrameIoApdu.declaredTotal content).toNat

/-- Reports that count upwards from an index. -/
def Numbered : (index : Nat) → List Bytes → Prop
  | _, [] => True
  | index, report :: reports =>
      headerFault (.ofNat index) report = none ∧ Numbered (index + 1) reports

/-- The full reports among these returns are numbered in order, hold as much
content as the first of them declares, and end with this status. -/
structure Carries (results : List ReadResult) (status : UInt16) : Prop where
  numbered : Numbered 0 (fullReports results)
  whole : 4 ≤ messageSize (contentOf (fullReports results)) ∧
    messageSize (contentOf (fullReports results)) ≤ (contentOf (fullReports results)).length
  status : ((contentOf (fullReports results)).drop
    (messageSize (contentOf (fullReports results)) - 2)).take 2 = bigEndian 2 status.toNat

/-- A response starts with a full report of number 0. -/
theorem Carries.start {results : List ReadResult} {status : UInt16}
    (carries : Carries results status) :
    ∃ result ∈ results, headerFault 0 (result.buffer 64) = none := by
  rcases reports : fullReports results with _ | ⟨report, rest⟩
  · have whole := carries.whole
    rw [reports] at whole
    exact absurd whole (by decide)
  · have numbered := carries.numbered
    rw [reports] at numbered
    have member : report ∈ fullReports results := by
      rw [reports]
      exact List.mem_cons_self
    obtain ⟨result, found, rfl⟩ := List.mem_map.mp member
    exact ⟨result, (List.mem_filter.mp found).1, numbered.1⟩

/-- The return starts a response whose status the buffer does not hold in its
place: it needs a second report that is not read, or a third one. -/
def Misplaced (result : ReadResult) : Prop :=
  toSizeT result.res = 64 ∧ headerFault 0 (result.buffer 64) = none ∧
    (messageSize ((result.buffer 64).drop 5) = 60 ∨
      118 < messageSize ((result.buffer 64).drop 5))

instance (result : ReadResult) : Decidable (Misplaced result) := by
  unfold Misplaced
  infer_instance

/-- The size is in the first report. -/
theorem messageSize_append {first : Bytes} (long : 2 ≤ first.length) (rest : Bytes) :
    messageSize (first ++ rest) = messageSize first := by
  rw [messageSize, messageSize, FrameIoApdu.declaredTotal, FrameIoApdu.declaredTotal,
    List.take_append_of_le_length long]

namespace FrameIoApdu

/-! ## The status that is returned -/

/-- A success has its two bytes in the buffer. -/
theorem success_of_decode {respLen : UInt16} {buffer response : Bytes} {preset : UInt16}
    (decoded : decode respLen buffer (some preset) = .ok (response, some codeSuccess)) :
    4 ≤ respLen.toNat ∧ byteAt buffer (respLen.toNat - 2) = 0x90 ∧
      byteAt buffer (respLen.toNat - 1) = 0 := by
  unfold decode at decoded
  split at decoded
  next long =>
    rcases first : slice? buffer 2 (respLen.toNat - 2) with _ | resp
    · simp [first] at decoded
    · rcases second : slice? buffer (respLen.toNat - 2) respLen.toNat with _ | respCode
      · simp [first, second] at decoded
      · simp only [first, second, Option.map_some, Except.ok.injEq, Prod.mk.injEq,
          Option.some.injEq] at decoded
        have ordered := (length_of_slice? first).2.1
        have size := (length_of_slice? second).1
        have atHigh := byteAt_of_slice? second (show 0 < _ by omega)
        have atLow := byteAt_of_slice? second (show 1 < _ by omega)
        obtain ⟨high, low, rfl⟩ : ∃ high low, respCode = [high, low] := by
          rcases respCode with _ | ⟨high, _ | ⟨low, _ | ⟨_, _⟩⟩⟩
          all_goals simp only [List.length_nil, List.length_cons] at size
          · omega
          · omega
          · exact ⟨high, low, rfl⟩
          · omega
        have value : high.toNat * 256 + low.toNat = 0x9000 := by
          have same := congrArg UInt16.toNat decoded.2
          rw [ofBigEndian_pair, UInt16.toNat_ofNat'] at same
          have preset : codeSuccess.toNat = 0x9000 := rfl
          have := high.toNat_lt
          have := low.toNat_lt
          omega
        have highByte : high = 0x90 := by
          apply UInt8.toNat_inj.mp
          have := low.toNat_lt
          have : (0x90 : UInt8).toNat = 0x90 := rfl
          omega
        have lowByte : low = 0 := by
          apply UInt8.toNat_inj.mp
          have := low.toNat_lt
          have : (0 : UInt8).toNat = 0 := rfl
          omega
        refine ⟨by omega, ?_, ?_⟩
        · rw [Nat.add_zero] at atHigh
          exact atHigh.symm.trans highByte
        · rw [show respLen.toNat - 1 = respLen.toNat - 2 + 1 by omega]
          exact atLow.symm.trans lowByte
  next => simp [codeSuccess, codeNoStatusResult] at decoded

theorem status_of_decode {respLen : UInt16} {buffer response : Bytes} {preset : UInt16}
    {status : Option UInt16}
    (decoded : decode respLen buffer (some preset) = .ok (response, status)) :
    ∃ code, status = some code := by
  unfold decode at decoded
  split at decoded
  · split at decoded
    · exact ⟨_, (Prod.mk.inj (Except.ok.inj decoded)).2.symm⟩
    · simp at decoded
  · exact ⟨_, (Prod.mk.inj (Except.ok.inj decoded)).2.symm⟩

/-! ## The reads behind it -/

/-- From the first report on, with a response of two reports at most: the loop
has seen no full report, or one that it stored. -/
theorem gather_second {respLen : Nat} {reached : Bytes} (short : respLen ≤ 128) :
    ∀ {results : List ReadResult} {framer : FrameIoApdu} {buffer : Bytes},
      framer.mSeq = 1 → 64 ≤ framer.rn →
      (gather respLen framer buffer results).outcome = .ok reached →
      let taken := results.take (gather respLen framer buffer results).calls
      (fullReports taken = [] ∧ reached = buffer) ∨
        ∃ report, fullReports taken = [report] ∧ headerFault 1 report = none ∧
          report.length = 64 ∧
          reached = overwrite buffer (framer.mOffset - 5) (report.drop 5) := by
  intro results
  induction results with
  | nil =>
      intro framer buffer second counted gathered
      rw [gather] at gathered
      split at gathered
      · simp at gathered
      · rw [Except.ok.injEq] at gathered
        exact .inl ⟨by rw [List.take_nil]; rfl, gathered.symm⟩
  | cons result results inductionHypothesis =>
      intro framer buffer second counted gathered
      rw [gather] at gathered ⊢
      split at gathered
      next more =>
        rw [if_pos more]
        rcases absorbed : framer.absorb buffer result with ⟨reason | stored, next⟩
        · simp [absorbed] at gathered
        · rw [absorbed] at gathered
          dsimp only [Intake.oneMore] at gathered ⊢
          rw [List.take_succ_cons]
          obtain ⟨_, ⟨partialRead, rfl, rfl⟩ | ⟨full, good, rfl, rfl⟩⟩ := absorb_ok absorbed
          · rw [fullReports_short partialRead]
            exact inductionHypothesis second (Nat.le_trans counted (Nat.le_add_right _ 5)) gathered
          · -- A second report completes what the loop waits for.
            have enough : respLen ≤
                ({ framer with mBuffer := result.buffer 64 : FrameIoApdu }).advance.rn := by
              show respLen ≤ framer.rn + 64
              omega
            rw [gather_of_le enough] at gathered ⊢
            rw [Except.ok.injEq] at gathered
            refine .inr ⟨result.buffer 64, ?_, second ▸ good, result.buffer_length 64, ?_⟩
            · rw [fullReports_full full]
              rfl
            · rw [← gathered, FrameIo.writePosition, if_neg (by rw [second]; decide)]
      next enough =>
        rw [Except.ok.injEq] at gathered
        rw [if_neg enough]
        exact .inl ⟨rfl, gathered.symm⟩

variable {framer : FrameIoApdu}

/-- An exchange that returns has stored a first report and gone through the
loop. -/
theorem receive_ok {statusCode : Option UInt16} {first : ReadResult} {rest : List ReadResult}
    {answer : Bytes × Option UInt16}
    (returned : (framer.receive statusCode (first :: rest)).outcome = .ok answer) :
    ∃ buffer next reached,
      framer.absorb (List.replicate 255 0) first = (.ok buffer, next) ∧
      (gather (declaredTotal buffer).toNat next buffer rest).outcome = .ok reached ∧
      decode (declaredTotal buffer) reached statusCode = .ok answer ∧
      (framer.receive statusCode (first :: rest)).calls =
        (gather (declaredTotal buffer).toNat next buffer rest).calls + 1 := by
  rw [receive] at returned ⊢
  rcases absorbed : framer.absorb (List.replicate 255 0) first with ⟨reason | buffer, next⟩
  · rw [absorbed] at returned
    exact absurd returned (by simp)
  · rw [absorbed] at returned
    rcases gathered : (gather (declaredTotal buffer).toNat next buffer rest).outcome with
      reason | reached
    · simp [gathered] at returned
    · simp only [gathered] at returned
      exact ⟨buffer, next, reached, rfl, gathered, returned, by simp only [gathered]⟩

/-- Where the second report goes is its place, or behind the response. -/
def Placed (framer : FrameIoApdu) : Prop := framer.mOffset = 0 ∨ 64 ≤ framer.mOffset

theorem absorb_placed (placed : framer.Placed) (buffer : Bytes) (result : ReadResult) :
    (framer.absorb buffer result).2.Placed := by
  unfold absorb
  split
  · exact placed
  · dsimp only
    split
    · exact placed
    · split
      · exact placed
      · exact .inr (Nat.le_add_left 64 framer.mOffset)

theorem gather_placed {respLen : Nat} {results : List ReadResult} {framer : FrameIoApdu}
    (placed : framer.Placed) (buffer : Bytes) :
    (gather respLen framer buffer results).framer.Placed := by
  induction results generalizing framer buffer with
  | nil =>
      unfold gather
      split <;> exact placed
  | cons result results inductionHypothesis =>
      have after := absorb_placed placed buffer result
      unfold gather
      split
      · rcases absorbed : framer.absorb buffer result with ⟨reason | stored, next⟩
        · rw [absorbed] at after
          exact after
        · rw [absorbed] at after
          exact inductionHypothesis after stored
      · exact placed

theorem receive_placed {statusCode : Option UInt16} {results : List ReadResult}
    (placed : framer.Placed) : (framer.receive statusCode results).framer.Placed := by
  cases results with
  | nil => exact placed
  | cons first rest =>
      have after := absorb_placed placed (List.replicate 255 0) first
      rw [receive]
      rcases absorbed : framer.absorb (List.replicate 255 0) first with ⟨reason | buffer, next⟩
      · rw [absorbed] at after
        exact after
      · rw [absorbed] at after
        have later := @gather_placed (declaredTotal buffer).toNat rest next after buffer
        dsimp only
        split
        · exact later
        next reached _ =>
          rcases decode (declaredTotal buffer) reached statusCode with reason | answer
          · exact later
          · exact .inl rfl

theorem exchange_placed {σ : Type} (tb : Toolbox) (hid : Hidapi σ) {world : World σ}
    {handle : Handle} {apdu : Apdu} {statusCode : Option UInt16} (placed : framer.Placed)
    (live : framer.mIo.mDev = some handle) (free : framer.mIo.mDevLock ∉ world.held)
    (room : framer.mBuffer.length ≤ 64) {outcome : Except Stop (Bytes × Option UInt16)}
    {reached : Scene FrameIoApdu σ}
    (ran : (exchange tb hid apdu statusCode).run ⟨framer, world⟩ = (outcome, reached))
    (ended : Ended outcome) : reached.self.Placed := by
  by_cases small : apdu.payloadSize ≤ 255
  · obtain ⟨_, results, _, self, _⟩ := exchange_ended_run tb hid small live free room ran ended
    rw [self]
    exact receive_placed placed
  · rw [exchange_run_of_large tb hid (by omega)] at ran
    rw [← (Prod.mk.inj ran).2]
    exact placed

private theorem carries_of_bytes {results : List ReadResult} {content : Bytes}
    (same : contentOf (fullReports results) = content)
    (numbered : Numbered 0 (fullReports results)) (long : 4 ≤ messageSize content)
    (within : messageSize content ≤ content.length)
    (high : byteAt content (messageSize content - 2) = 0x90)
    (low : byteAt content (messageSize content - 1) = 0) : Carries results codeSuccess := by
  subst same
  refine ⟨numbered, ⟨long, within⟩, ?_⟩
  apply eq_of_byteAt
  · rw [List.length_take, List.length_drop, bigEndian_length]
    omega
  · intro position inside
    rw [List.length_take, List.length_drop] at inside
    rw [byteAt_take, if_pos (by omega), byteAt_drop]
    obtain rfl | rfl : position = 0 ∨ position = 1 := by omega
    · exact high
    · rw [show messageSize (contentOf (fullReports results)) - 2 + 1 =
        messageSize (contentOf (fullReports results)) - 1 by omega]
      exact low

/-- A status that is no failure is a success. -/
theorem receive_success {preset : UInt16} {results : List ReadResult} {response : Bytes}
    {status : Option UInt16}
    (returned : (framer.receive (some preset) results).outcome = .ok (response, status))
    (passes : ∀ code, status = some code → code = codeSuccess) :
    status = some codeSuccess := by
  cases results with
  | nil => simp [receive] at returned
  | cons first rest =>
      obtain ⟨_, _, _, _, _, decoded, _⟩ := receive_ok returned
      obtain ⟨code, found⟩ := status_of_decode decoded
      rw [found, passes code found]

/-- The buffer after one report. -/
private theorem byteAt_first {content : Bytes} (size : content.length = 59) (position : Nat) :
    byteAt (overwrite (List.replicate 255 0) 0 content) position =
      if position < 59 then byteAt content position else 0 := by
  rw [byteAt_overwrite, size, byteAt_replicate_zero, Nat.sub_zero]
  simp

theorem declaredTotal_first {content buffer : Bytes} (size : content.length = 59)
    (stored : buffer = overwrite (List.replicate 255 0) 0 content) :
    declaredTotal buffer = declaredTotal content := by
  have leading : buffer.take 2 = content.take 2 := by
    apply eq_of_byteAt
    · rw [stored, List.length_take, List.length_take, overwrite_length, List.length_replicate]
      omega
    · intro position within
      rw [List.length_take] at within
      rw [byteAt_take, byteAt_take, stored, byteAt_first size, if_pos (by omega),
        if_pos (by omega), if_pos (by omega)]
  rw [declaredTotal, leading, declaredTotal]

/-- The buffer after a second report: it holds both in their places, or nothing
behind the first. -/
private theorem byteAt_second {first second : Bytes} {offset : Nat}
    (firstSize : first.length = 59) (secondSize : second.length = 59)
    (placed : offset = 0 ∨ 64 ≤ offset) :
    let buffer := overwrite (overwrite (List.replicate 255 0) 0 first) (offset + 64 - 5) second
    (∀ position, position < 118 →
      byteAt buffer position = byteAt (first ++ second) position) ∨
    ∀ position, position < 118 →
      byteAt buffer position = if position < 59 then byteAt first position else 0 := by
  intro buffer
  rcases placed with rfl | behind
  · refine .inl fun position within => ?_
    simp only [buffer]
    rw [byteAt_overwrite, byteAt_first firstSize, byteAt_append, firstSize, secondSize]
    by_cases inside : position < 59
    · rw [if_neg (by omega), if_pos inside, if_pos inside]
    · rw [if_pos (by omega), if_neg inside]
  · refine .inr fun position within => ?_
    simp only [buffer]
    rw [byteAt_overwrite, byteAt_first firstSize, if_neg (by omega)]

/-- An exchange that ends with a success has read a whole response with that
status, unless it misplaced the response. -/
theorem carries_of_success {preset : UInt16} {results : List ReadResult} {response : Bytes}
    (started : framer.mSeq = 0) (placed : framer.Placed)
    (success : (framer.receive (some preset) results).outcome =
      .ok (response, some codeSuccess)) :
    ∃ first rest, results = first :: rest ∧ (Misplaced first ∨
      Carries (results.take (framer.receive (some preset) results).calls) codeSuccess) := by
  cases results with
  | nil => simp [receive] at success
  | cons first rest =>
      refine ⟨first, rest, rfl, ?_⟩
      obtain ⟨buffer, next, reached, absorbed, gathered, decoded, calls⟩ := receive_ok success
      obtain ⟨long, high, low⟩ := success_of_decode decoded
      rw [calls, List.take_succ_cons]
      obtain ⟨_, ⟨partialRead, rfl, rfl⟩ | ⟨full, good, stored, rfl⟩⟩ := absorb_ok absorbed
      · -- Nothing was stored, so the declared size is that of an empty message.
        exact absurd long (by decide)
      rw [started] at good
      rw [FrameIo.writePosition, if_pos started] at stored
      let content := (first.buffer 64).drop 5
      have size : content.length = 59 := by
        rw [List.length_drop, ReadResult.buffer_length]
      have declared : (declaredTotal buffer).toNat = messageSize content := by
        rw [messageSize, declaredTotal_first size stored]
      rw [declared] at gathered long high low ⊢
      by_cases misplaced : messageSize content = 60 ∨ 118 < messageSize content
      · exact .inl ⟨full, good, misplaced⟩
      have started' :
          { framer with mBuffer := first.buffer 64 : FrameIoApdu }.advance.mSeq = 1 := by
        show framer.mSeq + 1 = 1
        rw [started]
        rfl
      have two : messageSize content ≤ 128 := by omega
      rcases gather_second two started' (Nat.le_add_left 64 framer.rn) gathered with
        ⟨none, rfl⟩ | ⟨report, only, good', reportSize, rfl⟩
      · -- One report: the status is in it.
        have inside : messageSize content - 2 < 59 := by
          by_contra beyond
          rw [stored, byteAt_first size, if_neg beyond] at high
          exact absurd high (by decide)
        rw [stored, byteAt_first size, if_pos (by omega)] at high low
        apply Or.inr
        apply carries_of_bytes _ _ long (by omega) high low
        · rw [fullReports_full full, none]
          exact List.append_nil _
        · rw [fullReports_full full, none]
          exact ⟨good, trivial⟩
      · -- Two reports: the second is in its place, or behind the response.
        have secondSize : (report.drop 5).length = 59 := by
          rw [List.length_drop, reportSize]
        have same : contentOf (fullReports (first :: rest.take (gather (messageSize content)
            { framer with mBuffer := first.buffer 64 : FrameIoApdu }.advance buffer rest).calls)) =
            content ++ report.drop 5 := by
          rw [fullReports_full full, only]
          exact congrArg (content ++ ·) (List.append_nil _)
        have numbered : Numbered 0 (fullReports (first :: rest.take
            (gather (messageSize content) { framer with mBuffer := first.buffer 64 :
              FrameIoApdu }.advance buffer rest).calls)) := by
          rw [fullReports_full full, only]
          exact ⟨good, good', trivial⟩
        have total := messageSize_append (by omega : 2 ≤ content.length) (report.drop 5)
        have whole : (content ++ report.drop 5).length = 118 := by
          rw [List.length_append, size, secondSize]
        rw [stored] at high low
        rcases byteAt_second size secondSize placed with inPlace | behind
        · have highPlace := inPlace (messageSize content - 2) (by omega)
          have lowPlace := inPlace (messageSize content - 1) (by omega)
          apply Or.inr
          apply carries_of_bytes same numbered
          all_goals rw [total]
          · exact long
          · omega
          · exact highPlace.symm.trans high
          · exact lowPlace.symm.trans low
        · have highPlace := behind (messageSize content - 2) (by omega)
          have lowPlace := behind (messageSize content - 1) (by omega)
          have inside : messageSize content - 2 < 59 := by
            by_contra beyond
            rw [if_neg beyond] at highPlace
            exact absurd (highPlace.symm.trans high) (by decide)
          rw [if_pos inside] at highPlace
          rw [if_pos (by omega)] at lowPlace
          apply Or.inr
          apply carries_of_bytes same numbered
          all_goals rw [total]
          · exact long
          · omega
          · rw [byteAt_append, if_pos (by omega)]
            exact highPlace.symm.trans high
          · rw [byteAt_append, if_pos (by omega)]
            exact lowPlace.symm.trans low

end FrameIoApdu

end MhWallet
