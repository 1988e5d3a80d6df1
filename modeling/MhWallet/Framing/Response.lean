import MhWallet.Framing.Exchange

/-!
Contract: what `frame_io_apdu::exchange` makes of a correctly framed response.

The read loop counts 64 bytes for every report of 59, and the third report and
every later one is stored 5 bytes further than its content belongs.  Both
follow from one equation for the buffer after a number of reports.

Owns: that equation, the number of reports read, and where the buffer disagrees
with the message.

Does not own: what the call returns.
-/

namespace MhWallet

open MhWallet.Bytes MhWallet.Effect MhWallet.Method MhWallet.Framing

/-! ## The buffer after a number of reports -/

/-- Where the content of report `index` is stored. -/
def storePosition (index : Nat) : Nat := if index = 0 then 0 else 64 * index - 5

/-- The buffer after the first reports of a message. -/
def assembled (message : Bytes) : (reports : Nat) → Bytes
  | 0 => List.replicate 255 0
  | reports + 1 =>
      overwrite (assembled message reports) (storePosition reports)
        (padTo 59 (chunk 59 message reports))

private theorem content_length (message : Bytes) (index : Nat) :
    (padTo 59 (chunk 59 message index)).length = 59 :=
  padTo_length (by rw [chunk_length]; omega)

private theorem byteAt_content (message : Bytes) (index position : Nat) :
    byteAt (padTo 59 (chunk 59 message index)) position =
      if position < 59 then byteAt message (59 * index + position) else 0 := by
  rw [byteAt_padTo, byteAt_chunk]

theorem assembled_length (message : Bytes) (reports : Nat) :
    (assembled message (reports + 1)).length = max 255 (64 * reports + 54) := by
  induction reports with
  | zero =>
      rw [assembled, overwrite_length, assembled, List.length_replicate, content_length,
        storePosition, if_pos rfl]
      rfl
  | succ reports inductionHypothesis =>
      rw [assembled, overwrite_length, inductionHypothesis, content_length, storePosition,
        if_neg (Nat.succ_ne_zero _)]
      omega

/-- Report 0 is stored at 0, report `i` at `64 i - 5`, and nothing else is
stored. -/
theorem byteAt_assembled (message : Bytes) (reports position : Nat) :
    byteAt (assembled message (reports + 1)) position =
      if position < 59 then byteAt message position
      else if (position + 5) / 64 < reports + 1 ∧ (position + 5) % 64 < 59 then
        byteAt message (59 * ((position + 5) / 64) + (position + 5) % 64)
      else 0 := by
  induction reports with
  | zero =>
      rw [assembled, byteAt_overwrite, content_length, byteAt_content, assembled,
        byteAt_replicate_zero, storePosition]
      by_cases first : position < 59
      · simp [first]
      · rw [if_neg (by simpa using first), if_neg first, if_neg (by omega)]
  | succ reports inductionHypothesis =>
      rw [assembled, byteAt_overwrite, content_length, byteAt_content, inductionHypothesis,
        storePosition, if_neg (Nat.succ_ne_zero _)]
      by_cases first : position < 59
      · rw [if_neg (by omega), if_pos first, if_pos first]
      · rw [if_neg first, if_neg first]
        by_cases inside : 64 * (reports + 1) - 5 ≤ position ∧
            position < 64 * (reports + 1) - 5 + 59
        · have quotient : (position + 5) / 64 = reports + 1 := by omega
          have remainder : (position + 5) % 64 = position - (64 * (reports + 1) - 5) := by
            omega
          rw [if_pos inside, if_pos (by omega), if_pos (by omega), quotient, remainder]
        · rw [if_neg inside]
          by_cases stored : (position + 5) / 64 < reports + 1 ∧ (position + 5) % 64 < 59
          · rw [if_pos stored, if_pos (by omega)]
          · rw [if_neg stored, if_neg (by omega)]

/-- The first byte of a message that the buffer holds at a wrong place. -/
def misplacedFrom (total : Nat) : Nat := if total ≤ 64 then 59 else 118

/-- The reports that the loop reads for a declared total. -/
def reportsRead (total : Nat) : Nat := chunkCount 64 total

theorem reportsRead_eq {total : Nat} (positive : 0 < total) :
    reportsRead total = (total - 1) / 64 + 1 := by
  rw [reportsRead, chunkCount]
  omega

/-- The buffer agrees with the message exactly if the message is zero wherever
the buffer is wrong. -/
theorem assembled_agrees_iff (message : Bytes) (positive : 0 < message.length) :
    (∀ position, 2 ≤ position → position < message.length →
      byteAt (assembled message (reportsRead message.length)) position =
        byteAt message position) ↔
      ∀ position, misplacedFrom message.length ≤ position → position < message.length →
        byteAt message position = 0 := by
  rw [reportsRead_eq positive, misplacedFrom]
  constructor
  · intro agrees position
    induction position using Nat.strongRecOn with
    | _ position inductionHypothesis =>
        intro misplaced within
        have stored := agrees position (by split at misplaced <;> omega) within
        rw [← stored, byteAt_assembled, if_neg (by split at misplaced <;> omega)]
        split
        · apply inductionHypothesis
          all_goals split at misplaced <;> (try split) <;> omega
        · rfl
  · intro zero position _ within
    rw [byteAt_assembled]
    by_cases first : position < 59
    · rw [if_pos first]
    · rw [if_neg first]
      by_cases second : 64 < message.length ∧ position < 118
      · have quotient : (position + 5) / 64 = 1 := by omega
        have remainder : (position + 5) % 64 = position - 59 := by omega
        rw [quotient, remainder, if_pos (by omega)]
        congr 1
        omega
      · rw [zero position (by split <;> omega) within]
        split
        · apply zero
          all_goals (try split) <;> omega
        · rfl

/-! ## The read loop on a framed response -/

theorem headerFault_inputReport (message : Bytes) (index : Nat) :
    headerFault (.ofNat index) (inputReport message index) = none := by
  have channel : channelIdOf (inputReport message index) = 0x0101 := rfl
  have tag : commandTagOf (inputReport message index) = 0x05 := rfl
  have seq : seqOf (inputReport message index) = .ofNat index := by
    have content : ((inputReport message index).drop 3).take 2 = bigEndian 2 index := by
      rw [inputReport, reportHeader, List.append_assoc]
      exact List.take_left' (bigEndian_length 2 index)
    rw [seqOf, content, ofBigEndian_bigEndian]
    exact UInt16.toNat_inj.mp (by simp)
  simp [headerFault, channel, tag, seq]

/-- A report is what the buffer of 64 bytes holds after the read. -/
theorem ofReport_buffer {report : Bytes} (size : report.length = 64) :
    (ReadResult.ofReport report).buffer 64 = report := by
  rw [ReadResult.buffer, ReadResult.ofReport, size, Nat.sub_self, List.replicate_zero,
    List.append_nil, List.take_of_length_le (Nat.le_of_eq size)]

namespace FrameIoApdu

variable {σ : Type} (tb : Toolbox) (hid : Hidapi σ) {framer : FrameIoApdu}

/-- The counters after `reports` accepted reports. -/
structure Counted (framer : FrameIoApdu) (reports : Nat) : Prop where
  seq : framer.mSeq = .ofNat reports
  offset : framer.mOffset = 64 * reports
  count : framer.rn = 64 * reports

/-- A report with the expected number is accepted. -/
theorem absorb_inputReport {message : Bytes} {index : Nat}
    (expected : framer.mSeq = .ofNat index) (buffer : Bytes) :
    framer.absorb buffer (.ofReport (inputReport message index)) =
      (.ok (overwrite buffer framer.writePosition (padTo 59 (chunk 59 message index))),
        { framer with mBuffer := inputReport message index : FrameIoApdu }.advance) := by
  have content : (inputReport message index).drop 5 = padTo 59 (chunk 59 message index) :=
    List.drop_left' (reportHeader_length index)
  have sixtyFour : toSizeT 64 = 64 := by decide
  have full : toSizeT (ReadResult.ofReport (inputReport message index)).res = 64 := sixtyFour
  have accepted : headerFault framer.mSeq (inputReport message index) = none := by
    rw [expected]
    exact headerFault_inputReport message index
  have clean : (ReadResult.ofReport (inputReport message index)).error = none := rfl
  simp only [absorb, clean, full, ne_eq, not_true_eq_false, if_false,
    ofReport_buffer (inputReport_length message index), accepted]
  rw [content]
  rfl

/-- The next report of a message is accepted and stored in its place. -/
theorem Counted.absorb {message : Bytes} {index : Nat} (counted : framer.Counted index)
    (numbered : index < 65536) (buffer : Bytes) :
    ∃ next, framer.absorb buffer (.ofReport (inputReport message index)) =
        (.ok (overwrite buffer (storePosition index) (padTo 59 (chunk 59 message index))),
          next) ∧
      next.Counted (index + 1) := by
  have position : framer.writePosition = storePosition index := by
    have first : framer.mSeq = 0 ↔ index = 0 := by
      rw [counted.seq, ← UInt16.toNat_inj, UInt16.toNat_ofNat']
      have : (0 : UInt16).toNat = 0 := rfl
      omega
    simp only [FrameIo.writePosition, storePosition, first, counted.offset]
  refine ⟨_, by rw [absorb_inputReport counted.seq, position], ?_, ?_, ?_⟩
  · simp only [advance, FrameIo.advance, counted.seq, UInt16.ofNat_add]
    rfl
  · simp only [advance, FrameIo.advance, counted.offset]
    omega
  · simp only [advance, counted.count]
    omega

/-- The loop from `index` reports on: it reads as many as it needs and leaves
the rest, whatever follows them. -/
theorem Counted.gather {message : Bytes} (more : List ReadResult)
    (short : message.length ≤ 65535) :
    ∀ (left index : Nat) (framer : FrameIoApdu), framer.Counted index → 0 < index →
      reportsRead message.length = index + left →
      ∃ final, framer.gather message.length (assembled message index)
          ((List.range' index (chunkCount 59 message.length - index)).map
            (fun index => ReadResult.ofReport (inputReport message index)) ++ more) =
          ⟨.ok (assembled message (reportsRead message.length)), final, left⟩ := by
  intro left
  induction left with
  | zero =>
      intro index framer counted started enough
      refine ⟨framer, ?_⟩
      rw [gather_of_le, enough]
      · rfl
      · rw [counted.count]
        simp only [reportsRead, chunkCount] at enough
        omega
  | succ left inductionHypothesis =>
      intro index framer counted started enough
      have wanted : 64 * index < message.length ∧
          index + 1 ≤ chunkCount 59 message.length ∧ index < 65536 := by
        simp only [reportsRead, chunkCount] at enough ⊢
        omega
      obtain ⟨next, absorbed, counted'⟩ :=
        @Counted.absorb _ message _ counted wanted.2.2 (assembled message index)
      obtain ⟨final, later⟩ := inductionHypothesis (index + 1) next counted'
        (Nat.succ_pos _) (by omega)
      have remaining : chunkCount 59 message.length - index =
          (chunkCount 59 message.length - (index + 1)) + 1 := by omega
      refine ⟨final, ?_⟩
      rw [remaining, List.range'_succ, List.map_cons, List.cons_append, FrameIoApdu.gather,
        if_pos (by rw [counted.count]; omega), absorbed]
      exact congrArg Intake.oneMore later

theorem declaredTotal_assembled {message : Bytes}
    (declared : message.take 2 = bigEndian 2 (message.length - 2))
    (long : 4 ≤ message.length) :
    declaredTotal (assembled message 1) = .ofNat message.length := by
  have leading : (assembled message 1).take 2 = message.take 2 := by
    apply eq_of_byteAt
    · rw [List.length_take, List.length_take, assembled_length]
      omega
    · intro position within
      rw [List.length_take] at within
      rw [byteAt_take, byteAt_take, byteAt_assembled, if_pos (by omega), if_pos (by omega),
        if_pos (by omega)]
  rw [declaredTotal, leading, declared, ofBigEndian_bigEndian]
  apply UInt16.toNat_inj.mp
  rw [UInt16.toNat_add, UInt16.toNat_ofNat', UInt16.toNat_ofNat']
  have : (2 : UInt16).toNat = 2 := rfl
  omega

/-- A framed response, read from clean counters. -/
theorem receive_inputReports {message : Bytes} (clean : framer.Counted 0)
    (declared : message.take 2 = bigEndian 2 (message.length - 2))
    (long : 4 ≤ message.length) (short : message.length ≤ 65535)
    (statusCode : Option UInt16) (more : List ReadResult) :
    let received := framer.receive statusCode
      ((inputReports message).map ReadResult.ofReport ++ more)
    received.outcome = decode (.ofNat message.length)
        (assembled message (reportsRead message.length)) statusCode ∧
      received.calls = reportsRead message.length := by
  intro received
  obtain ⟨left, needed⟩ : ∃ left, reportsRead message.length = 1 + left :=
    ⟨reportsRead message.length - 1, by rw [reportsRead_eq (by omega)]; omega⟩
  obtain ⟨next, absorbed, counted⟩ :=
    @Counted.absorb _ message _ clean (by omega) (List.replicate 255 0)
  obtain ⟨final, gathered⟩ :=
    counted.gather more short left 1 next (by omega) needed
  have available : chunkCount 59 message.length = (chunkCount 59 message.length - 1) + 1 := by
    unfold chunkCount
    omega
  have total : (UInt16.ofNat message.length).toNat = message.length := by
    rw [UInt16.toNat_ofNat']
    omega
  have received_eq : received =
      ⟨decode (.ofNat message.length)
          (assembled message (reportsRead message.length)) statusCode,
        final.settled (decode (.ofNat message.length)
          (assembled message (reportsRead message.length)) statusCode), left + 1⟩ := by
    have stored := declaredTotal_assembled declared long
    simp only [received, inputReports, List.range_eq_range', List.map_map]
    rw [available, List.range'_succ, List.map_cons, List.cons_append]
    simp only [receive, Function.comp_apply, absorbed]
    rw [assembled, assembled] at stored
    rw [stored, total]
    erw [gathered]
  rw [received_eq]
  exact ⟨rfl, by rw [needed, Nat.add_comm]⟩

end FrameIoApdu

end MhWallet
