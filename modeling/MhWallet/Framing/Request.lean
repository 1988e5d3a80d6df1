import MhWallet.Framing.Wire

/-!
Contract: `frame_io::write` hands the device the output reports of the request
and nothing else.

Owns: the bytes of an `APDU`, the loop of `frame_io::write`, and the
injectivity of the request framing.
-/

namespace MhWallet

open MhWallet.Bytes MhWallet.Effect MhWallet.Method MhWallet.Framing

/-- The bytes of an `APDU` whose payload size fits its length byte. -/
def Apdu.encoded (apdu : Apdu) : Bytes :=
  [apdu.cla, apdu.ins, apdu.p1, apdu.p2, UInt8.ofNat apdu.payloadSize] ++
    apdu.payload.toList.take apdu.payloadSize

theorem Apdu.encoded_length {apdu : Apdu} (small : apdu.payloadSize ≤ 255) :
    apdu.encoded.length = 5 + apdu.payloadSize := by
  simp only [encoded, List.length_append, List.length_take, Vector.length_toList,
    List.length_cons, List.length_nil]
  omega

theorem Apdu.toBytes_eq (tb : Toolbox) {apdu : Apdu} (small : apdu.payloadSize ≤ 255) :
    apdu.toBytes tb = apdu.encoded := by
  have sizeByte : (UInt8.ofNat apdu.payloadSize).toNat = apdu.payloadSize := by
    rw [UInt8.toNat_ofNat']
    omega
  have zeros : List.replicate (5 + apdu.payloadSize) (0 : UInt8) =
      0 :: 0 :: 0 :: 0 :: 0 :: List.replicate apdu.payloadSize 0 := by
    rw [Nat.add_comm]
    rfl
  simp only [toBytes, Toolbox.bytesData_eq, Toolbox.write_eq, zeros, sizeByte, encoded]
  by_cases empty : apdu.payloadSize = 0
  · simp [empty, overwrite]
  · have taken : (apdu.payload.toList.take apdu.payloadSize).length = apdu.payloadSize := by
      rw [List.length_take, Vector.length_toList]
      omega
    have fits : apdu.payload.toList.length = 255 := Vector.length_toList
    rw [if_pos (by omega)]
    simp [overwrite, taken]
    omega

/-- The reports of a request. -/
def requestReports (apdu : Apdu) : List Bytes := outputReports (requestMessage apdu.encoded)

namespace World

variable {σ : Type}

/-- The world after `hid_write` calls for these reports. -/
def afterWrites (world : World σ) (hid : Hidapi σ) (mutex : Mutex) (handle : Handle)
    (reports : List Bytes) : World σ :=
  reports.foldl
    (fun world report =>
      world.extend (hid.write handle report world.env).2
        [.lock mutex, .hidWrite (some handle) report, .unlock mutex])
    world

theorem afterWrites_cons (world : World σ) (hid : Hidapi σ) (mutex : Mutex)
    (handle : Handle) (report : Bytes) (reports : List Bytes) :
    world.afterWrites hid mutex handle (report :: reports) =
      (world.extend (hid.write handle report world.env).2
        [.lock mutex, .hidWrite (some handle) report, .unlock mutex]).afterWrites hid mutex
          handle reports := rfl

/-- Writes leave everything but the environment and the log as it is. -/
theorem afterWrites_eq (world : World σ) (hid : Hidapi σ) (mutex : Mutex)
    (handle : Handle) (reports : List Bytes) :
    world.afterWrites hid mutex handle reports =
      world.extend (world.afterWrites hid mutex handle reports).env
        (reports.flatMap fun report =>
          [.lock mutex, .hidWrite (some handle) report, .unlock mutex]) := by
  induction reports generalizing world with
  | nil => simp [afterWrites, extend]
  | cons report reports inductionHypothesis =>
      rw [afterWrites_cons, inductionHypothesis]
      simp only [extend, List.flatMap_cons, List.append_assoc]

@[simp] theorem afterWrites_held (world : World σ) (hid : Hidapi σ) (mutex : Mutex)
    (handle : Handle) (reports : List Bytes) :
    (world.afterWrites hid mutex handle reports).held = world.held := by
  rw [afterWrites_eq]
  rfl

end World

namespace FrameIo

variable {σ : Type} (tb : Toolbox) (hid : Hidapi σ) {framer : FrameIo}

/-- One round of the loop builds the report of its index. -/
theorem round_report {message chunk : Bytes} (index : Nat)
    (chunkLength : chunk.length = 64) (chunkHeader : chunk.take 3 = [0x01, 0x01, 0x05]) :
    let moved := min (message.drop (59 * index)).length 59
    let numbered := overwrite chunk 3 (bigEndian 2 (UInt16.ofNat index).toNat)
    let filled := overwrite numbered 5 ((message.drop (59 * index)).take moved)
    filled.take (5 + moved) = outputReport message index ∧ filled.length = 64 ∧
      filled.take 3 = [0x01, 0x01, 0x05] ∧
      (message.drop (59 * index)).drop moved = message.drop (59 * (index + 1)) := by
  intro moved numbered filled
  have number : bigEndian 2 (UInt16.ofNat index).toNat = bigEndian 2 index := by
    rw [UInt16.toNat_ofNat']
    exact bigEndian_mod 2 index
  have movedLe : moved ≤ 59 := Nat.min_le_right _ _
  have contentLength : ((message.drop (59 * index)).take moved).length = moved := by
    rw [List.length_take]
    exact Nat.min_eq_left (Nat.min_le_left _ _)
  have content : (message.drop (59 * index)).take moved = Bytes.chunk 59 message index := by
    unfold Bytes.chunk
    by_cases short : (message.drop (59 * index)).length ≤ 59
    · rw [List.take_of_length_le short, List.take_of_length_le]
      exact Nat.le_min.mpr ⟨Nat.le_refl _, short⟩
    · congr 1
      exact Nat.min_eq_right (by omega)
  have numberedEq : numbered = reportHeader index ++ chunk.drop 5 := by
    simp only [numbered, overwrite, number, bigEndian_length, chunkHeader, chunkLength,
      reportHeader]
    simp
  have filledEq : filled = reportHeader index ++ Bytes.chunk 59 message index ++
      (reportHeader index ++ chunk.drop 5).drop (5 + moved) := by
    have headerTake : (reportHeader index ++ chunk.drop 5).take 5 = reportHeader index :=
      List.take_left' (reportHeader_length index)
    have chunkLength : (Bytes.chunk 59 message index).length = moved := by
      rw [← content, contentLength]
    simp only [filled, numberedEq, overwrite, headerTake, content, chunkLength,
      List.length_append, reportHeader_length]
    simp
  have reportLength : (reportHeader index ++ Bytes.chunk 59 message index).length =
      5 + moved := by
    rw [List.length_append, reportHeader_length, ← content, contentLength]
  refine ⟨?_, ?_, ?_, ?_⟩
  · rw [filledEq, List.take_left' reportLength]
    rfl
  · rw [filledEq]
    simp only [List.length_append, List.length_drop, reportHeader_length, chunkLength]
    rw [← content, contentLength]
    omega
  · rw [filledEq, reportHeader]
    rfl
  · rw [List.drop_drop]
    by_cases short : (message.drop (59 * index)).length ≤ 59
    · rw [List.length_drop] at short
      rw [List.drop_eq_nil_of_le, List.drop_eq_nil_of_le]
      · omega
      · simp only [moved, List.length_drop]
        omega
    · congr 1
      have : moved = 59 := Nat.min_eq_right (by omega)
      omega

/-- The loop of `write`, started at report `index` of a message. -/
theorem writeLoop_run {handle : Handle} (live : framer.mIo.mDev = some handle)
    (message : Bytes) :
    ∀ (rounds index : Nat) (chunk : Bytes) (world : World σ),
      framer.mIo.mDevLock ∉ world.held → chunk.length = 64 →
      chunk.take 3 = [0x01, 0x01, 0x05] →
      (message.drop (59 * index)).length ≤ rounds →
      (writeLoop tb hid rounds (message.drop (59 * index)) chunk (UInt16.ofNat index)).run
          ⟨framer, world⟩ =
        (.ok (), ⟨framer, world.afterWrites hid framer.mIo.mDevLock handle
          ((List.range' index (chunkCount 59 (message.length - 59 * index))).map
            (outputReport message))⟩) := by
  intro rounds
  induction rounds with
  | zero =>
      intro index chunk world _ _ _ enough
      have empty : message.drop (59 * index) = [] := List.length_eq_zero_iff.mp (by omega)
      have done : message.length - 59 * index = 0 := by
        rw [← List.length_drop, empty]
        rfl
      simp [writeLoop, empty, done, chunkCount_zero, World.afterWrites]
  | succ rounds inductionHypothesis =>
      intro index chunk world free chunkLength chunkHeader enough
      by_cases empty : message.drop (59 * index) = []
      · have done : message.length - 59 * index = 0 := by
          rw [← List.length_drop, empty]
          rfl
        simp [writeLoop, empty, done, chunkCount_zero, World.afterWrites]
      · have remaining : 0 < message.length - 59 * index := by
          rw [← List.length_drop]
          exact List.length_pos_iff.mpr empty
        obtain ⟨report, filledLength, filledHeader, rest⟩ :=
          @round_report message chunk index chunkLength chunkHeader
        have nextSeq : UInt16.ofNat index + 1 = UInt16.ofNat (index + 1) := by
          rw [UInt16.ofNat_add]
          rfl
        have counted : chunkCount 59 (message.length - 59 * index) =
            chunkCount 59 (message.length - 59 * (index + 1)) + 1 := by
          rw [chunkCount_succ (by decide) remaining]
          congr 2
        have movedLe : 5 + min (message.drop (59 * index)).length 59 ≤ 64 := by omega
        rw [writeLoop, if_neg empty]
        simp only [Toolbox.write_eq, Toolbox.uint16Bytes_eq, Toolbox.popFrontTo_eq,
          Toolbox.takeRangeTo_eq, overwrite_length, bigEndian_length, chunkLength,
          Action.run_bind, Nat.reduceAdd, Nat.reduceSub, Nat.max_eq_left,
          Nat.reduceLeDiff]
        rw [slice?_of_le (Nat.zero_le _) (by rw [filledLength]; exact movedLe),
          List.drop_zero, Nat.sub_zero, report, rest]
        simp only [run_orOutOfRange_some, run_onMember, io,
          HidppDevice.write_run hid live free, nextSeq]
        have later := inductionHypothesis (index + 1) _
          (world.extend (hid.write handle (outputReport message index) world.env).2
            [.lock framer.mIo.mDevLock, .hidWrite (some handle) (outputReport message index),
              .unlock framer.mIo.mDevLock])
          free filledLength filledHeader (by rw [List.length_drop] at enough ⊢; omega)
        rw [counted, List.range'_succ, List.map_cons]
        exact later

/-- The buffer that `write` cuts into reports. -/
theorem request_buffer (apduData : Bytes) :
    overwrite (overwrite (List.replicate (apduData.length + 2) 0) 0
      (bigEndian 2 (UInt16.ofNat apduData.length).toNat)) 2 apduData =
      requestMessage apduData := by
  have declared : bigEndian 2 (UInt16.ofNat apduData.length).toNat =
      bigEndian 2 apduData.length := by
    rw [UInt16.toNat_ofNat']
    exact bigEndian_mod 2 _
  rw [declared, requestMessage]
  simp [overwrite]

/-- The chunk that `write` starts from. -/
def firstChunk : Bytes :=
  overwrite (overwrite (List.replicate 64 0) 0 (bigEndian 2 257)) 2 [5]

theorem write_eq_loop (apdu : Apdu) (small : apdu.payloadSize ≤ 255) :
    (write tb hid apdu : Method FrameIo σ Nat) = do
      writeLoop tb hid (requestMessage apdu.encoded).length (requestMessage apdu.encoded)
        firstChunk 0
      return apdu.encoded.length := by
  simp only [write, Apdu.toBytes_eq tb small, Toolbox.bytesData_eq, Toolbox.write_eq,
    Toolbox.uint16Bytes_eq, request_buffer]
  rfl

/-- `frame_io::write` on an open device: the output reports of the request, in
order, and the size of the `APDU` whatever `hid_write` returned. -/
theorem write_run {handle : Handle} {world : World σ} {apdu : Apdu}
    (small : apdu.payloadSize ≤ 255) (live : framer.mIo.mDev = some handle)
    (free : framer.mIo.mDevLock ∉ world.held) :
    (write tb hid apdu).run ⟨framer, world⟩ =
      (.ok apdu.encoded.length,
        ⟨framer, world.afterWrites hid framer.mIo.mDevLock handle (requestReports apdu)⟩) := by
  have looped := writeLoop_run tb hid live (requestMessage apdu.encoded)
    (requestMessage apdu.encoded).length 0 firstChunk world free
    (by simp [firstChunk]) (by decide) (by simp)
  simp only [Nat.mul_zero, List.drop_zero, Nat.sub_zero] at looped
  rw [write_eq_loop tb hid apdu small, Action.run_bind]
  erw [looped]
  rw [requestReports, outputReports, List.range_eq_range']
  rfl

/-- Without a handle the first report is written through a null pointer. -/
theorem write_run_of_null {world : World σ} {apdu : Apdu} (small : apdu.payloadSize ≤ 255)
    (null : framer.mIo.mDev = none) (free : framer.mIo.mDevLock ∉ world.held) :
    ((write tb hid apdu).run ⟨framer, world⟩).1 = .error .undefined := by
  have nonempty : requestMessage apdu.encoded ≠ [] := by
    simp [requestMessage, bigEndian]
  obtain ⟨rounds, counted⟩ : ∃ rounds, (requestMessage apdu.encoded).length = rounds + 1 :=
    ⟨(requestMessage apdu.encoded).length - 1, by
      have := List.length_pos_iff.mpr nonempty
      omega⟩
  obtain ⟨report, filledLength, -, -⟩ :=
    @round_report (requestMessage apdu.encoded) firstChunk 0 (by simp [firstChunk]) (by decide)
  have movedLe : 5 + min (requestMessage apdu.encoded).length 59 ≤ 64 := by omega
  have first : bigEndian 2 (0 : UInt16).toNat = bigEndian 2 (UInt16.ofNat 0).toNat := rfl
  simp only [Nat.mul_zero, List.drop_zero] at report filledLength
  rw [write_eq_loop tb hid apdu small, counted, Action.run_bind, writeLoop, if_neg nonempty]
  simp only [Toolbox.write_eq, Toolbox.uint16Bytes_eq, Toolbox.popFrontTo_eq,
    Toolbox.takeRangeTo_eq, overwrite_length, bigEndian_length, Action.run_bind, first,
    show firstChunk.length = 64 from by simp [firstChunk], Nat.reduceAdd, Nat.reduceSub,
    Nat.max_eq_left, Nat.reduceLeDiff]
  rw [slice?_of_le (Nat.zero_le _) (by rw [filledLength]; exact movedLe),
    List.drop_zero, Nat.sub_zero, report]
  simp only [run_orOutOfRange_some, run_onMember, io,
    HidppDevice.write_run_of_null hid null free]

end FrameIo

end MhWallet
