import MhWallet.Framing.Response
import MhWallet.NanosWallet

/-!
Contract: when `frame_io_apdu::exchange` returns the response of the device,
and when it takes all the reports of the response and no more.
-/

namespace MhWallet

open MhWallet.Bytes MhWallet.Effect MhWallet.Method MhWallet.Framing

namespace FrameIoApdu

/-- The slices of a buffer are the response exactly if the buffer agrees with
the message behind its length. -/
theorem decode_eq_iff (data : Bytes) (status preset : UInt16) (buffer : Bytes)
    (short : data.length + 4 ≤ 65535) :
    decode (.ofNat (data.length + 4)) buffer (some preset) = .ok (data, some status) ↔
      data.length + 4 ≤ buffer.length ∧
        ∀ position, 2 ≤ position → position < data.length + 4 →
          byteAt buffer position = byteAt (responseMessage data status) position := by
  have total : (UInt16.ofNat (data.length + 4)).toNat = data.length + 4 := by
    rw [UInt16.toNat_ofNat']
    omega
  have long : (UInt16.ofNat (data.length + 4)) ≥ 2 := by
    rw [ge_iff_le, UInt16.le_iff_toNat_le, total]
    exact Nat.le_add_left 2 _
  rw [decode, if_pos long, total]
  by_cases fits : data.length + 4 ≤ buffer.length
  · rw [slice?_of_le (by omega) (by omega), slice?_of_le (by omega) fits]
    have contentSize : data.length + 4 - 2 - 2 = data.length := by omega
    have statusSize : data.length + 4 - (data.length + 4 - 2) = 2 := by omega
    have statusPlace : data.length + 4 - 2 = data.length + 2 := by omega
    rw [contentSize, statusSize, statusPlace]
    have codeLength : ((buffer.drop (data.length + 2)).take 2).length = 2 := by
      rw [List.length_take, List.length_drop]
      omega
    have respLength : ((buffer.drop 2).take data.length).length = data.length := by
      rw [List.length_take, List.length_drop]
      omega
    have byteAt_message : ∀ position, 2 ≤ position →
        byteAt (responseMessage data status) position =
          if position < data.length + 2 then byteAt data (position - 2)
          else byteAt (bigEndian 2 status.toNat) (position - (data.length + 2)) := by
      intro position behind
      rw [responseMessage, byteAt_append, List.length_append, bigEndian_length,
        byteAt_append, bigEndian_length, if_neg (show ¬ position < 2 by omega),
        Nat.add_comm 2]
    have code_eq_iff :
        UInt16.ofNat (ofBigEndian ((buffer.drop (data.length + 2)).take 2)) = status ↔
          (buffer.drop (data.length + 2)).take 2 = bigEndian 2 status.toNat := by
      have bound := ofBigEndian_lt ((buffer.drop (data.length + 2)).take 2)
      rw [codeLength] at bound
      constructor
      · rintro rfl
        have encoded := bigEndian_ofBigEndian ((buffer.drop (data.length + 2)).take 2)
        rw [codeLength] at encoded
        rw [UInt16.toNat_ofNat_of_lt' bound, encoded]
      · intro same
        rw [same, ofBigEndian_bigEndian_of_lt status.toNat_lt, UInt16.ofNat_toNat]
    simp only [Option.map_some, Except.ok.injEq, Prod.mk.injEq, Option.some.injEq,
      code_eq_iff, fits, true_and]
    constructor
    · rintro ⟨sameData, sameStatus⟩ position behind within
      rw [byteAt_message position behind]
      split
      next inside =>
        rw [← sameData, byteAt_take, if_pos (by omega), byteAt_drop]
        congr 1
        omega
      next outside =>
        rw [← sameStatus, byteAt_take, if_pos (by omega), byteAt_drop]
        congr 1
        omega
    · intro same
      refine ⟨eq_of_byteAt respLength ?_, eq_of_byteAt ?_ ?_⟩
      · intro position within
        rw [respLength] at within
        rw [byteAt_take, if_pos within, byteAt_drop, same _ (by omega) (by omega),
          byteAt_message _ (by omega), if_pos (by omega), Nat.add_sub_cancel_left]
      · rw [codeLength, bigEndian_length]
      · intro position within
        rw [codeLength] at within
        rw [byteAt_take, if_pos within, byteAt_drop, same _ (by omega) (by omega),
          byteAt_message _ (by omega), if_neg (by omega), Nat.add_sub_cancel_left]
  · rw [slice?_of_not (fun bounds => fits bounds.2)]
    constructor
    · intro decoded
      rcases slice? buffer 2 (data.length + 4 - 2) with _ | resp <;> simp at decoded
    · intro agrees
      exact absurd agrees.1 fits

/-! ## An exchange with a device that answers correctly -/

section Exchange

variable {σ : Type} (tb : Toolbox) (hid : Hidapi σ)

theorem fresh_counted (mIo : HidppDevice) : (fresh tb mIo).restarted.Counted 0 :=
  ⟨rfl, rfl, rfl⟩

/-- What a fresh framer makes of a framed response. -/
theorem exchange_run_of_response {handle : Handle} {mIo : HidppDevice} {apdu : Apdu}
    {world : World σ} {message : Bytes} (small : apdu.payloadSize ≤ 255)
    (live : mIo.mDev = some handle) (free : mIo.mDevLock ∉ world.held)
    (declared : message.take 2 = bigEndian 2 (message.length - 2))
    (long : 4 ≤ message.length) (short : message.length ≤ 65535)
    (delivers : hid.Delivers handle ((inputReports message).map ReadResult.ofReport)
      (world.afterWrites hid mIo.mDevLock handle (requestReports apdu)).env)
    (statusCode : Option UInt16) :
    let sent := world.afterWrites hid mIo.mDevLock handle (requestReports apdu)
    ((exchange tb hid apdu statusCode).run ⟨fresh tb mIo, world⟩).1 =
        decode (.ofNat message.length)
          (assembled message (reportsRead message.length)) statusCode ∧
      ((exchange tb hid apdu statusCode).run ⟨fresh tb mIo, world⟩).2.world =
        sent.afterReads hid mIo.mDevLock handle (reportsRead message.length) := by
  intro sent
  have available : ((inputReports message).map ReadResult.ofReport).length ≤ 65536 := by
    simp only [inputReports, List.length_map, List.length_range, chunkCount]
    omega
  have liveFresh : (fresh tb mIo).mIo.mDev = some handle := live
  have freeFresh : (fresh tb mIo).mIo.mDevLock ∉ world.held := free
  have roomFresh : (fresh tb mIo).mBuffer.length ≤ 64 := by
    simp
  obtain ⟨more, answers⟩ := delivers.answers available
  have ran := @exchange_run σ tb hid (fresh tb mIo) world handle apdu statusCode 65536 small
    liveFresh freeFresh roomFresh (Nat.le_refl 65536)
  have answered : hid.answers handle 65536 (world.afterWrites hid (fresh tb mIo).mIo.mDevLock
      handle (requestReports apdu)).env =
      (inputReports message).map ReadResult.ofReport ++ more := answers
  obtain ⟨outcome, calls⟩ :=
    receive_inputReports (fresh_counted tb mIo) declared long short statusCode more
  dsimp only at ran
  rw [answered] at ran
  rw [ran, outcome, calls]
  exact ⟨rfl, rfl⟩

/-- `exchange` on a fresh framer returns the data and the status of a framed
response exactly if the bytes that it misplaces are zero and the last byte that
it looks for is in the buffer. -/
theorem exchange_decodes_response_iff {handle : Handle} {mIo : HidppDevice} {apdu : Apdu}
    {world : World σ} {data : Bytes} {status : UInt16} (small : apdu.payloadSize ≤ 255)
    (live : mIo.mDev = some handle) (free : mIo.mDevLock ∉ world.held)
    (short : data.length + 2 ≤ 65533)
    (delivers : hid.Delivers handle
      ((inputReports (responseMessage data status)).map ReadResult.ofReport)
      (world.afterWrites hid mIo.mDevLock handle (requestReports apdu)).env)
    (preset : UInt16) :
    ((exchange tb hid apdu (some preset)).run ⟨fresh tb mIo, world⟩).1 =
        .ok (data, some status) ↔
      (∀ position, misplacedFrom (data.length + 4) ≤ position →
        position < data.length + 4 →
        byteAt (responseMessage data status) position = 0) ∧
      (data.length + 4 ≤ 255 ∨ (data.length + 3) % 64 < 54) := by
  have length := responseMessage_length data status
  have declared : (responseMessage data status).take 2 =
      bigEndian 2 ((responseMessage data status).length - 2) := by
    rw [responseMessage_take, length]
    rfl
  have ran := (exchange_run_of_response tb hid small live free declared (by omega) (by omega)
    delivers (some preset)).1
  have agrees := assembled_agrees_iff (responseMessage data status) (by omega)
  have held : (assembled (responseMessage data status) (reportsRead (data.length + 4))).length =
      max 255 (64 * ((data.length + 3) / 64) + 54) := by
    rw [reportsRead_eq (by omega), assembled_length]
    rfl
  rw [length] at ran agrees
  rw [ran, decode_eq_iff data status preset _ (by omega), agrees, held]
  constructor
  · rintro ⟨fits, zero⟩
    exact ⟨zero, by omega⟩
  · rintro ⟨zero, fits⟩
    exact ⟨by omega, zero⟩

theorem exchange_decodes_version :
    ((exchange Toolbox.reference Script.device NanosWallet.getAppVersionApdu (some 0)).run
      ⟨fresh Toolbox.reference .connected, (Script.ofReads
        ((inputReports (responseMessage [1, 2, 3] 0x9000)).map ReadResult.ofReport)).world⟩).1 =
      .ok ([1, 2, 3], some 0x9000) :=
  (exchange_decodes_response_iff Toolbox.reference Script.device (by decide)
      (rfl : HidppDevice.connected.mDev = some 0) (by decide) (by decide)
      (Script.device_delivers _ _ _ rfl) 0).mpr
    ⟨fun position misplaced within => by simp [misplacedFrom] at misplaced within; omega,
      .inl (by decide)⟩

/-- A response of 56 bytes loses the last byte of its status. -/
theorem exchange_corrupts_status :
    ¬ ∀ (tb : Toolbox) (hid : Hidapi Script) (handle : Handle) (mIo : HidppDevice)
        (apdu : Apdu) (world : World Script) (data : Bytes) (status preset : UInt16),
      apdu.payloadSize ≤ 255 → mIo.mDev = some handle → mIo.mDevLock ∉ world.held →
      data.length + 2 ≤ 65533 →
      hid.Delivers handle ((inputReports (responseMessage data status)).map ReadResult.ofReport)
        (world.afterWrites hid mIo.mDevLock handle (requestReports apdu)).env →
      ((exchange tb hid apdu (some preset)).run ⟨fresh tb mIo, world⟩).1 =
        .ok (data, some status) := by
  intro decodes
  have corrupted := decodes Toolbox.reference Script.device 0 .connected
    NanosWallet.getAppVersionApdu
    (Script.ofReads ((inputReports (responseMessage (List.replicate 56 7) 0x6985)).map
      ReadResult.ofReport)).world
    (List.replicate 56 7) 0x6985 0 (by decide) rfl (by decide) (by decide)
    (Script.device_delivers _ _ _ rfl)
  revert corrupted
  decide +kernel

/-- The reads that a fresh framer makes of a framed response. -/
theorem exchange_reads_of_response {handle : Handle} {mIo : HidppDevice} {apdu : Apdu}
    {world : World σ} {message : Bytes} (small : apdu.payloadSize ≤ 255)
    (live : mIo.mDev = some handle) (free : mIo.mDevLock ∉ world.held)
    (declared : message.take 2 = bigEndian 2 (message.length - 2))
    (long : 4 ≤ message.length) (short : message.length ≤ 65535)
    (delivers : hid.Delivers handle ((inputReports message).map ReadResult.ofReport)
      (world.afterWrites hid mIo.mDevLock handle (requestReports apdu)).env)
    (statusCode : Option UInt16) :
    ((exchange tb hid apdu statusCode).run ⟨fresh tb mIo, world⟩).2.world.readsSince world =
      (((inputReports message).map ReadResult.ofReport).take
        (reportsRead message.length)).map some := by
  have available : reportsRead message.length ≤
      ((inputReports message).map ReadResult.ofReport).length := by
    rw [reportsRead_eq (by omega)]
    simp only [inputReports, List.length_map, List.length_range, chunkCount]
    omega
  obtain ⟨more, answers⟩ := delivers.answers (Nat.le_refl _)
  have answered : hid.answers handle (reportsRead message.length)
      (world.afterWrites hid mIo.mDevLock handle (requestReports apdu)).env =
      ((inputReports message).map ReadResult.ofReport).take (reportsRead message.length) := by
    rw [← Hidapi.answers_take hid handle available, answers,
      List.take_append_of_le_length available]
  have answeredLength : ¬ (((inputReports message).map ReadResult.ofReport).take
      (reportsRead message.length)).length < reportsRead message.length := by
    rw [List.length_take]
    omega
  rw [(exchange_run_of_response tb hid small live free declared long short delivers
    statusCode).2, World.readsSince, World.afterReads_log, answered, readTrace,
    if_neg answeredLength, List.append_nil, World.afterWrites_eq]
  simp only [World.extend, List.append_assoc, List.drop_left, readResults_append,
    readResults_readEvents, readResults_writes, List.nil_append]

/-- `exchange` on a fresh framer reads the reports of a framed response, all of
them and nothing more, exactly if counting 64 bytes for each gives as many
rounds as counting 59. -/
theorem exchange_drains_response_iff {handle : Handle} {mIo : HidppDevice} {apdu : Apdu}
    {world : World σ} {message : Bytes} (small : apdu.payloadSize ≤ 255)
    (live : mIo.mDev = some handle) (free : mIo.mDevLock ∉ world.held)
    (declared : message.take 2 = bigEndian 2 (message.length - 2))
    (long : 4 ≤ message.length) (short : message.length ≤ 65535)
    (delivers : hid.Delivers handle ((inputReports message).map ReadResult.ofReport)
      (world.afterWrites hid mIo.mDevLock handle (requestReports apdu)).env)
    (statusCode : Option UInt16) :
    ((exchange tb hid apdu statusCode).run ⟨fresh tb mIo, world⟩).2.world.readsSince world =
        ((inputReports message).map ReadResult.ofReport).map some ↔
      (message.length - 1) / 64 = (message.length - 1) / 59 := by
  have total : ((inputReports message).map ReadResult.ofReport).length =
      (message.length - 1) / 59 + 1 := by
    simp only [inputReports, List.length_map, List.length_range, chunkCount]
    omega
  rw [exchange_reads_of_response tb hid small live free declared long short delivers
    statusCode, reportsRead_eq (by omega)]
  constructor
  · intro same
    have lengths := congrArg List.length same
    rw [List.length_map, List.length_map, List.length_take, total] at lengths
    omega
  · intro same
    rw [same, List.take_of_length_le (Nat.le_of_eq total)]

theorem exchange_drains_version :
    ((exchange Toolbox.reference Script.device NanosWallet.getAppVersionApdu (some 0)).run
      ⟨fresh Toolbox.reference .connected, (Script.ofReads
        ((inputReports (responseMessage [1, 2, 3] 0x9000)).map
          ReadResult.ofReport)).world⟩).2.world.readsSince (Script.ofReads
        ((inputReports (responseMessage [1, 2, 3] 0x9000)).map ReadResult.ofReport)).world =
      ((inputReports (responseMessage [1, 2, 3] 0x9000)).map ReadResult.ofReport).map some :=
  (exchange_drains_response_iff Toolbox.reference Script.device (by decide)
      (rfl : HidppDevice.connected.mDev = some 0) (by decide) (by decide) (by decide)
      (by decide) (Script.device_delivers _ _ _ rfl) (some 0)).mpr (by decide)

/-- The second report of a response of 56 bytes is not read. -/
theorem exchange_leaves_report :
    ¬ ∀ (tb : Toolbox) (hid : Hidapi Script) (handle : Handle) (mIo : HidppDevice)
        (apdu : Apdu) (world : World Script) (message : Bytes) (statusCode : Option UInt16),
      apdu.payloadSize ≤ 255 → mIo.mDev = some handle → mIo.mDevLock ∉ world.held →
      message.take 2 = bigEndian 2 (message.length - 2) → 4 ≤ message.length →
      message.length ≤ 65535 →
      hid.Delivers handle ((inputReports message).map ReadResult.ofReport)
        (world.afterWrites hid mIo.mDevLock handle (requestReports apdu)).env →
      ((exchange tb hid apdu statusCode).run ⟨fresh tb mIo, world⟩).2.world.readsSince world =
        ((inputReports message).map ReadResult.ofReport).map some := by
  intro drains
  have left := drains Toolbox.reference Script.device 0 .connected
    NanosWallet.getAppVersionApdu
    (Script.ofReads ((inputReports (responseMessage (List.replicate 56 7) 0x9000)).map
      ReadResult.ofReport)).world
    (responseMessage (List.replicate 56 7) 0x9000) (some 0) (by decide) rfl (by decide)
    (by decide +kernel) (by decide +kernel) (by decide +kernel)
    (Script.device_delivers _ _ _ rfl)
  revert left
  decide +kernel

end Exchange

end FrameIoApdu

end MhWallet
