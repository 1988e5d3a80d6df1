import MhWallet.Framing.Response

/-!
Contract: where successive calls of `frame_io::read` leave the contents of the
reports of a message.

Every report after the first goes to a place that is counted in whole reports,
header included, so from the third report on the contents lie five bytes apart.

Owns: the calls, the buffer that they leave, and the messages that lie in it
without a gap.

Does not own: the loop of an exchange.
-/

namespace MhWallet

open MhWallet.Bytes MhWallet.Effect MhWallet.Method MhWallet.Framing

/-! ## The buffer -/

/-- Where the content of a report goes; the sequence number wraps around. -/
def landingOf (index : Nat) : Nat := if index % 65536 = 0 then 0 else 64 * index - 5

/-- The buffer after the first reports of a message. -/
def landed (message out : Bytes) : (reports : Nat) → Bytes
  | 0 => out
  | reports + 1 =>
      overwrite (landed message out reports) (landingOf reports) (chunk 59 message reports)

/-- The byte that the reports leave at a position behind the second. -/
def strayByte (message out : Bytes) (position : Nat) : UInt8 :=
  if (position + 5) % 64 < 59 ∧ (position + 5) / 64 % 65536 ≠ 0 then
    byteAt message (59 * ((position + 5) / 64) + (position + 5) % 64)
  else byteAt out position

/-- The last report that goes to the front of the buffer. -/
def lastInFront (reports : Nat) : Nat := 65536 * ((reports - 1) / 65536)

variable {message out : Bytes}

private theorem whole_chunk {index : Nat} (within : 59 * (index + 1) ≤ message.length) :
    (chunk 59 message index).length = 59 := by
  rw [chunk_length]
  omega

theorem byteAt_landed {reports : Nat} (started : 0 < reports)
    (within : 59 * reports ≤ message.length) (position : Nat) :
    byteAt (landed message out reports) position =
      if position < 59 then byteAt message (59 * lastInFront reports + position)
      else if (position + 5) / 64 < reports then strayByte message out position
      else byteAt out position := by
  induction reports with
  | zero => exact absurd started (Nat.lt_irrefl 0)
  | succ reports inductionHypothesis =>
      have earlier : byteAt (landed message out reports) position =
          if position < 59 ∧ 0 < reports then
            byteAt message (59 * lastInFront reports + position)
          else if (position + 5) / 64 < reports then strayByte message out position
          else byteAt out position := by
        rcases Nat.eq_zero_or_pos reports with rfl | positive
        · rw [landed, if_neg (by omega), if_neg (Nat.not_lt_zero _)]
        · rw [inductionHypothesis positive (by omega)]
          simp only [positive, and_true]
      rw [landed, byteAt_overwrite, whole_chunk (by omega), byteAt_chunk, earlier, landingOf]
      by_cases front : reports % 65536 = 0
      · have last : lastInFront (reports + 1) = reports := by
          unfold lastInFront
          omega
        rw [if_pos front, last]
        by_cases first : position < 59
        · rw [if_pos (by omega), if_pos (by omega), if_pos first, Nat.sub_zero]
        · rw [if_neg (by omega), if_neg (by omega), if_neg first]
          -- The report that would lie here went to the front.
          by_cases here : (position + 5) / 64 = reports
          · rw [if_neg (by omega), if_pos (by omega), strayByte, if_neg (by omega)]
          · by_cases before : (position + 5) / 64 < reports
            · rw [if_pos before, if_pos (by omega)]
            · rw [if_neg before, if_neg (by omega)]
      · have last : lastInFront (reports + 1) = lastInFront reports := by
          rw [lastInFront, lastInFront]
          omega
        rw [if_neg front, last]
        by_cases first : position < 59
        · rw [if_neg (by omega), if_pos (by omega), if_pos first]
        · rw [if_neg first]
          by_cases inside : 64 * reports - 5 ≤ position ∧ position < 64 * reports - 5 + 59
          · have quotient : (position + 5) / 64 = reports := by omega
            have remainder : (position + 5) % 64 = position - (64 * reports - 5) := by omega
            rw [if_pos inside, if_pos (by omega), if_pos (by omega), strayByte,
              if_pos (by omega), quotient, remainder]
          · rw [if_neg inside, if_neg (by omega)]
            by_cases before : (position + 5) / 64 < reports
            · rw [if_pos before, if_pos (by omega)]
            · rw [if_neg before]
              by_cases here : (position + 5) / 64 = reports
              · rw [if_pos (by omega), strayByte, if_neg (by omega)]
              · rw [if_neg (by omega)]

/-- The buffer is long enough for the contents. -/
theorem landed_length {reports : Nat} (within : 59 * reports ≤ message.length) :
    59 * reports ≤ (landed message out reports).length ∧
      (reports % 65536 ≠ 1 → 64 * reports - 10 ≤ (landed message out reports).length) := by
  induction reports with
  | zero => exact ⟨Nat.zero_le _, fun _ => Nat.zero_le _⟩
  | succ reports inductionHypothesis =>
      obtain ⟨long, longer⟩ := inductionHypothesis (by omega)
      rw [landed, overwrite_length, whole_chunk (by omega), landingOf]
      split
      · omega
      · omega

/-- The contents lie in the buffer without a gap exactly if nothing was written
over the front and every byte behind the second report is the one that came to
lie there. -/
theorem landed_contiguous_iff {reports : Nat} (started : 0 < reports)
    (size : message.length = 59 * reports) :
    (∀ index, index < reports →
      chunk 59 (landed message out reports) index = chunk 59 message index) ↔
      (∀ position, position < 59 → byteAt message (59 * lastInFront reports + position) =
        byteAt message position) ∧
      ∀ position, 118 ≤ position → position < 59 * reports →
        strayByte message out position = byteAt message position := by
  have long := (@landed_length message out reports (Nat.le_of_eq size.symm)).1
  have bytes := @byteAt_landed message out reports started (Nat.le_of_eq size.symm)
  have pointwise : (∀ index, index < reports →
      chunk 59 (landed message out reports) index = chunk 59 message index) ↔
      ∀ position, position < 59 * reports →
        byteAt (landed message out reports) position = byteAt message position := by
    constructor
    · intro same position within
      have here := congrArg (fun content => byteAt content (position % 59))
        (same (position / 59) (by omega))
      simp only [byteAt_chunk] at here
      rw [if_pos (by omega), if_pos (by omega),
        show 59 * (position / 59) + position % 59 = position by omega] at here
      exact here
    · intro same index within
      apply eq_of_byteAt
      · rw [chunk_length, chunk_length]
        omega
      · intro position inside
        rw [chunk_length] at inside
        rw [byteAt_chunk, byteAt_chunk, if_pos (by omega), if_pos (by omega)]
        exact same _ (by omega)
  rw [pointwise]
  constructor
  · intro same
    constructor
    · intro position first
      rw [← same position (by omega), bytes, if_pos first]
    · intro position behind within
      rw [← same position within, bytes, if_neg (by omega), if_pos (by omega)]
  · rintro ⟨front, rest⟩ position within
    rw [bytes]
    by_cases first : position < 59
    · rw [if_pos first, front position first]
    · rw [if_neg first, if_pos (by omega)]
      by_cases second : position < 118
      · rw [strayByte, if_pos (by omega)]
        congr 1
        omega
      · exact rest position (by omega) within

/-! ## The calls -/

namespace FrameIo

variable {σ : Type} (tb : Toolbox) (hid : Hidapi σ) {framer : FrameIo} {world : World σ}

/-- Successive calls of `read` on one buffer: their results and the buffer. -/
def readAll : (calls : Nat) → (out : Bytes) → Method FrameIo σ (List Nat × Bytes)
  | 0, out => return ([], out)
  | calls + 1, out => do
      let (n, out) ← read tb hid out
      let (ns, out) ← readAll calls out
      return (n :: ns, out)

/-- A read of the next report of a message. -/
theorem read_run_of_report {handle : Handle} {index : Nat} {env : σ}
    (live : framer.mIo.mDev = some handle) (free : framer.mIo.mDevLock ∉ world.held)
    (room : framer.mBuffer.length ≤ 64) (within : 59 * (index + 1) ≤ message.length)
    (expected : framer.mSeq = .ofNat index) (offset : framer.mOffset = 64 * index)
    (answer : hid.read handle 64 world.env =
      (some (.ofReport (inputReport message index)), env)) (buffer : Bytes) :
    (read tb hid buffer).run ⟨framer, world⟩ =
      (.ok (59, overwrite buffer (landingOf index) (chunk 59 message index)),
        ⟨{ framer with mBuffer := inputReport message index : FrameIo }.advance,
          world.afterRead framer.mIo.mDevLock handle env
            (.ofReport (inputReport message index))⟩) := by
  have whole : overwrite framer.mBuffer 0 (inputReport message index) =
      inputReport message index :=
    overwrite_zero_of_length (by rw [inputReport_length]; exact room)
  have content : (inputReport message index).drop 5 = chunk 59 message index := by
    have padded : padTo 59 (chunk 59 message index) = chunk 59 message index := by
      rw [padTo, whole_chunk within, Nat.sub_self, List.replicate_zero, List.append_nil]
    rw [← padded]
    exact List.drop_left' (reportHeader_length index)
  have position : { framer with mBuffer := inputReport message index : FrameIo }.writePosition =
      landingOf index := by
    have front : framer.mSeq = 0 ↔ index % 65536 = 0 := by
      rw [expected, ← UInt16.toNat_inj, UInt16.toNat_ofNat']
      rfl
    simp only [writePosition, landingOf, front, offset]
  have good : headerFault framer.mSeq (inputReport message index) = none := by
    rw [expected]
    exact headerFault_inputReport message index
  have sixtyFour : toSizeT 64 = 64 := by decide
  have full : toSizeT (ReadResult.ofReport (inputReport message index)).res = 64 := sixtyFour
  have clean : (ReadResult.ofReport (inputReport message index)).error = none := rfl
  have accepted := @accept_run σ tb { framer with mBuffer := inputReport message index }
    (world.afterRead framer.mIo.mDevLock handle env (.ofReport (inputReport message index)))
    (inputReport_length message index) buffer
  simp only [good, content, position] at accepted
  unfold read
  simp only [Action.run_bind, run_self, run_onMember, io,
    HidppDevice.read_run tb hid live free, answer,
    ofReport_buffer (inputReport_length message index), clean, full, run_updateSelf, whole,
    ne_eq, not_true_eq_false, if_false]
  exact accepted

/-- Reading on through a message. -/
theorem readAll_run {handle : Handle} :
    ∀ (left index : Nat) (framer : FrameIo) (world : World σ),
      framer.mIo.mDev = some handle → framer.mIo.mDevLock ∉ world.held →
      framer.mBuffer.length ≤ 64 → framer.mSeq = .ofNat index → framer.mOffset = 64 * index →
      59 * (index + left) ≤ message.length →
      hid.Delivers handle ((List.range' index left).map fun index =>
        .ofReport (inputReport message index)) world.env →
      ((readAll tb hid left (landed message out index)).run ⟨framer, world⟩).1 =
        .ok (List.replicate left 59, landed message out (index + left)) := by
  intro left
  induction left with
  | zero =>
      intro index framer world _ _ _ _ _ _ _
      rfl
  | succ left inductionHypothesis =>
      intro index framer world live free room expected offset within delivers
      rw [List.range'_succ, List.map_cons] at delivers
      obtain ⟨first, later⟩ := delivers
      obtain ⟨env, answer⟩ : ∃ env, hid.read handle 64 world.env =
          (some (.ofReport (inputReport message index)), env) :=
        ⟨_, Prod.ext first rfl⟩
      rw [answer] at later
      have continued := inductionHypothesis (index + 1)
        { framer with mBuffer := inputReport message index : FrameIo }.advance
        (world.afterRead framer.mIo.mDevLock handle env
          (.ofReport (inputReport message index)))
        live free (Nat.le_of_eq (inputReport_length message index))
        (by simp only [advance, expected, UInt16.ofNat_add]; rfl)
        (by simp only [advance, offset]; omega) (by omega) later
      unfold readAll
      rw [Action.run_bind_ok (read_run_of_report tb hid live free room (by omega) expected
        offset answer _)]
      rw [landed] at continued
      rcases ran : (readAll tb hid left (overwrite (landed message out index) (landingOf index)
        (chunk 59 message index))).run
          ⟨{ framer with mBuffer := inputReport message index : FrameIo }.advance,
            world.afterRead framer.mIo.mDevLock handle env
              (.ofReport (inputReport message index))⟩ with ⟨outcome, reached⟩
      rw [ran] at continued
      dsimp only at continued
      rw [continued] at ran
      rw [Action.run_bind_ok ran, show index + (left + 1) = index + 1 + left by omega]
      rfl

/-- The calls return 59 each and leave the content of every report in its
place. -/
def ReadsContiguously (calls : Nat) (message : Bytes)
    (outcome : Except Stop (List Nat × Bytes)) : Prop :=
  ∃ buffer, outcome = .ok (List.replicate calls 59, buffer) ∧
    ∀ index, index < calls → chunk 59 buffer index = chunk 59 message index

/-- Successive reads leave the contents without a gap exactly if the bytes that
lie elsewhere do not show. -/
theorem reads_contiguously_iff {handle : Handle} {calls : Nat} (started : 0 < calls)
    (size : message.length = 59 * calls) (live : framer.mIo.mDev = some handle)
    (free : framer.mIo.mDevLock ∉ world.held) (room : framer.mBuffer.length ≤ 64)
    (seq : framer.mSeq = 0) (offset : framer.mOffset = 0)
    (delivers : hid.Delivers handle ((inputReports message).map .ofReport) world.env)
    (out : Bytes) :
    ReadsContiguously calls message ((readAll tb hid calls out).run ⟨framer, world⟩).1 ↔
      (∀ position, position < 59 → byteAt message (59 * lastInFront calls + position) =
        byteAt message position) ∧
      ∀ position, 118 ≤ position → position < 59 * calls →
        strayByte message out position = byteAt message position := by
  have count : chunkCount 59 message.length = calls := by
    unfold chunkCount
    omega
  rw [inputReports, count, List.range_eq_range', List.map_map] at delivers
  have ran := @readAll_run message out σ tb hid handle calls 0 framer world live free room seq
    offset (by omega) delivers
  rw [Nat.zero_add] at ran
  rw [show (readAll tb hid calls out).run ⟨framer, world⟩ =
    (readAll tb hid calls (landed message out 0)).run ⟨framer, world⟩ from rfl, ran,
    ← landed_contiguous_iff started size]
  constructor
  · rintro ⟨buffer, returned, contiguous⟩
    rw [Except.ok.injEq, Prod.mk.injEq] at returned
    rw [returned.2]
    exact contiguous
  · intro contiguous
    exact ⟨_, rfl, contiguous⟩

/-- The world of a device that sends these reports of a message. -/
def reportsWorld (message : Bytes) : World Script :=
  (Script.ofReads ((inputReports message).map .ofReport)).world

theorem reportsWorld_delivers (handle : Handle) (message : Bytes) :
    Script.device.Delivers handle ((inputReports message).map .ofReport)
      (reportsWorld message).env :=
  Script.device_delivers handle _ _ rfl

theorem reportsWorld_idle (mutex : Mutex) (message : Bytes) :
    mutex ∉ (reportsWorld message).held :=
  List.not_mem_nil

/-- Two reports are contiguous, whatever they carry. -/
theorem reads_contiguously_of_two :
    ReadsContiguously 2 (List.replicate 118 7)
      ((readAll Toolbox.reference Script.device 2 (List.replicate 255 0)).run
        ⟨fresh Toolbox.reference .connected, reportsWorld (List.replicate 118 7)⟩).1 := by
  generalize same : List.replicate 118 (7 : UInt8) = message
  have size : message.length = 59 * 2 := by
    rw [← same, List.length_replicate]
  have contiguous := reads_contiguously_iff Toolbox.reference Script.device
    (by decide : 0 < 2) size
    (rfl : (fresh Toolbox.reference .connected).mIo.mDev = some 0)
    (reportsWorld_idle _ message) (by decide) rfl rfl (reportsWorld_delivers 0 message)
    (List.replicate 255 0)
  apply contiguous.mpr
  exact ⟨fun position _ => by rw [show lastInFront 2 = 0 from rfl, Nat.mul_zero, Nat.zero_add],
    fun position behind within => absurd within (by omega)⟩

/-- The third report leaves a gap of five bytes. -/
theorem reads_leave_gap :
    ¬ ∀ (tb : Toolbox) (hid : Hidapi Script) (framer : FrameIo) (world : World Script)
        (handle : Handle) (calls : Nat) (message out : Bytes), 0 < calls →
      message.length = 59 * calls → framer.mIo.mDev = some handle →
      framer.mIo.mDevLock ∉ world.held → framer.mBuffer.length ≤ 64 → framer.mSeq = 0 →
      framer.mOffset = 0 →
      hid.Delivers handle ((inputReports message).map .ofReport) world.env →
      ReadsContiguously calls message ((readAll tb hid calls out).run ⟨framer, world⟩).1 := by
  intro reads
  have left : ((readAll Toolbox.reference Script.device 3 (List.replicate 255 0)).run
      ⟨fresh Toolbox.reference .connected, reportsWorld (List.replicate 177 7)⟩).1 =
      .ok (List.replicate 3 59, landed (List.replicate 177 7) (List.replicate 255 0) 3) := by
    decide +kernel
  have apart : chunk 59 (landed (List.replicate 177 7) (List.replicate 255 0) 3) 2 ≠
      chunk 59 (List.replicate 177 7) 2 := by
    decide +kernel
  generalize same : List.replicate 177 (7 : UInt8) = message at left apart
  have size : message.length = 59 * 3 := by
    rw [← same, List.length_replicate]
  obtain ⟨buffer, returned, contiguous⟩ := reads Toolbox.reference Script.device
    (fresh Toolbox.reference .connected) (reportsWorld message) 0 3 message
    (List.replicate 255 0) (by decide) size rfl (reportsWorld_idle _ message) (by decide) rfl
    rfl (reportsWorld_delivers 0 message)
  rw [left, Except.ok.injEq, Prod.mk.injEq] at returned
  exact apart (returned.2 ▸ contiguous 2 (by decide))

end FrameIo

end MhWallet
