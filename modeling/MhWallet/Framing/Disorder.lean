import MhWallet.Framing.Ordering

/-!
Contract: what an exchange makes of the reports of a response that are lost, repeated
or delivered in another order.

Owns: that an exchange which takes no other reports returns, if it returns, what it
returns for the same reports in their order.

Does not own: reports of another response, which the numbers do not tell apart.
-/

namespace MhWallet

open MhWallet.Bytes MhWallet.Effect MhWallet.Method MhWallet.Framing

/-- The read that delivers a report of a message. -/
def frameRead (message : Bytes) (index : Nat) : ReadResult :=
  .ofReport (inputReport message index)

theorem map_inputReports (message : Bytes) :
    (inputReports message).map ReadResult.ofReport =
      (List.range' 0 (chunkCount 59 message.length)).map (frameRead message) := by
  rw [inputReports, List.map_map, List.range_eq_range']
  rfl

theorem fullReports_frameRead (message : Bytes) (index : Nat) (results : List ReadResult) :
    fullReports (frameRead message index :: results) =
      inputReport message index :: fullReports results := by
  have sixtyFour : toSizeT 64 = 64 := by decide
  have full : toSizeT (frameRead message index).res = 64 := sixtyFour
  rw [fullReports_full full, frameRead, ofReport_buffer (inputReport_length message index)]

/-- A report of a message is accepted as the report of its own number alone. -/
theorem index_of_accepted {message : Bytes} {index expected : Nat} (small : index < 65536)
    (smallExpected : expected < 65536)
    (accepted : headerFault (.ofNat expected) (inputReport message index) = none) :
    index = expected := by
  have own := (headerFault_eq_none_iff small _).mp (headerFault_inputReport message index)
  have wanted := (headerFault_eq_none_iff smallExpected _).mp accepted
  exact own.2.2.symm.trans wanted.2.2

/-- Reports of a message that count upwards are its reports from there on. -/
theorem eq_of_numbered {message : Bytes} (few : chunkCount 59 message.length < 65536)
    {taken : List ReadResult} {index : Nat} (bound : index ≤ chunkCount 59 message.length)
    (frames : ∀ result ∈ taken, result ∈ (inputReports message).map ReadResult.ofReport)
    (numbered : Numbered index (fullReports taken)) :
    index + taken.length ≤ chunkCount 59 message.length ∧
      taken = (List.range' index taken.length).map (frameRead message) := by
  induction taken generalizing index with
  | nil => exact ⟨bound, rfl⟩
  | cons result taken inductionHypothesis =>
      have frame := frames result List.mem_cons_self
      rw [map_inputReports] at frame
      obtain ⟨own, inside, rfl⟩ := List.mem_map.mp frame
      have below : own < chunkCount 59 message.length := by
        have range := List.mem_range'.mp inside
        omega
      rw [fullReports_frameRead, Numbered] at numbered
      have same : own = index := index_of_accepted (by omega) (by omega) numbered.1
      rw [same] at below ⊢
      obtain ⟨within, later⟩ := inductionHypothesis below
        (fun other there => frames other (List.mem_cons_of_mem _ there)) numbered.2
      refine ⟨by rw [List.length_cons]; omega, ?_⟩
      rw [List.length_cons, List.range'_succ, List.map_cons, ← later]

/-- They are a beginning of its reports. -/
theorem beginning_of_numbered {message : Bytes} (few : chunkCount 59 message.length < 65536)
    {taken : List ReadResult}
    (frames : ∀ result ∈ taken, result ∈ (inputReports message).map ReadResult.ofReport)
    (numbered : Numbered 0 (fullReports taken)) :
    taken <+: (inputReports message).map ReadResult.ofReport := by
  obtain ⟨within, same⟩ := eq_of_numbered few (Nat.zero_le _) frames numbered
  rw [Nat.zero_add] at within
  have parts : List.range' 0 (chunkCount 59 message.length) =
      List.range' 0 taken.length ++
        List.range' taken.length (chunkCount 59 message.length - taken.length) := by
    have joined := @List.range'_append 0 taken.length
      (chunkCount 59 message.length - taken.length) 1
    rw [Nat.zero_add, Nat.one_mul, Nat.add_sub_cancel' within] at joined
    exact joined.symm
  refine ⟨(List.range' taken.length (chunkCount 59 message.length - taken.length)).map
    (frameRead message), ?_⟩
  rw [map_inputReports, parts, List.map_append, ← same]

/-- A report of a message that is refused is refused for its number. -/
theorem refused_of_frame {message : Bytes} {result : ReadResult} {seq : UInt16}
    {fault : Exception} (frame : result ∈ (inputReports message).map ReadResult.ofReport)
    (bad : headerFault seq (result.buffer 64) = some fault) :
    ∃ given, fault = .wrongSeqno seq given := by
  rw [map_inputReports] at frame
  obtain ⟨index, -, rfl⟩ := List.mem_map.mp frame
  rw [frameRead, ofReport_buffer (inputReport_length message index)] at bad
  exact ⟨_, headerFault_of_seq bad rfl rfl⟩

namespace FrameIoApdu

variable {σ : Type} {tb : Toolbox} {hid : Hidapi σ} {framer : FrameIoApdu}
  {world orderly : World σ} {handle : Handle} {apdu : Apdu}

/-- Whatever reports of a response are lost, repeated or exchanged: the exchange ends as
it ends when they all come in their order, or it waits, or it throws
`wrong_seqno_error`. -/
theorem response_survives_disorder {message : Bytes} (short : message.length ≤ 65535)
    (small : apdu.payloadSize ≤ 255) (live : framer.mIo.mDev = some handle)
    (free : framer.mIo.mDevLock ∉ world.held) (room : framer.mBuffer.length ≤ 64)
    (frames : ∀ result ∈ deliveries hid framer world handle apdu,
      result ∈ (inputReports message).map ReadResult.ofReport)
    (freeToo : framer.mIo.mDevLock ∉ orderly.held)
    (inOrder : (inputReports message).map ReadResult.ofReport <+:
      deliveries hid framer orderly handle apdu)
    (statusCode : Option UInt16) :
    let ended := ((exchange tb hid apdu statusCode).run ⟨framer, world⟩).1
    ended = ((exchange tb hid apdu statusCode).run ⟨framer, orderly⟩).1 ∨
      ended = .error .waits ∨
      ∃ expected given, ended = .error (.throws (.wrongSeqno expected given)) := by
  intro ended
  obtain ⟨taken, more, received, split, passed, ending, outcome, -, -⟩ :=
    exchange_course tb hid small live free room statusCode
  rw [show ended = received.outcome from outcome]
  have few : chunkCount 59 message.length < 65536 := by
    unfold chunkCount
    omega
  have passedFrames : ∀ result ∈ taken,
      result ∈ (inputReports message).map ReadResult.ofReport := fun result there =>
    frames result (split ▸ List.mem_append_left more there)
  cases ending with
  | @done total _ enough size =>
      left
      obtain ⟨rest, same⟩ :=
        (beginning_of_numbered few passedFrames passed.inOrder.numbered).trans inOrder
      have orderlyEnd := (exchange_received tb hid small live freeToo room statusCode).1
      obtain ⟨orderlyTotal, orderlySize, orderlyReceived⟩ :=
        receive_of_done (rfl : framer.restarted.mSeq = 0) passed enough statusCode rest
      have totals : orderlyTotal = total :=
        UInt16.toNat_inj.mp (orderlySize.trans size.symm)
      rw [orderlyEnd, ← same, orderlyReceived, totals]
  | waits => exact .inr (.inl rfl)
  | @fails result more _ wants failed =>
      have frame := frames result (by rw [split]; simp)
      obtain ⟨report, -, rfl⟩ := List.mem_map.mp frame
      exact absurd rfl failed
  | @refuses result more fault wants clean full bad =>
      obtain ⟨given, rfl⟩ := refused_of_frame (frames result (by rw [split]; simp)) bad
      exact .inr (.inr ⟨_, given, rfl⟩)

/-- A response of two reports, of which the second comes first. -/
theorem response_survives_disorder_of_exchanged :
    let ended (reads : List ReadResult) :=
      ((exchange Toolbox.reference Script.device NanosWallet.getAppVersionApdu (some 0)).run
        ⟨fresh Toolbox.reference .connected, (Script.ofReads reads).world⟩).1
    let exchanged := ended [frameRead longResponse 1, frameRead longResponse 0]
    exchanged = ended [frameRead longResponse 0, frameRead longResponse 1] ∨
      exchanged = .error .waits ∨
      ∃ expected given, exchanged = .error (.throws (.wrongSeqno expected given)) :=
  response_survives_disorder (show longResponse.length ≤ 65535 by decide) (by decide) rfl
    List.not_mem_nil (by simp)
    (by decide +kernel) List.not_mem_nil (by decide +kernel) (some 0)

end FrameIoApdu

end MhWallet
