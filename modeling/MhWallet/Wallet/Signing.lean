import MhWallet.Wallet.Exchange

/-!
Contract: which bytes `nanos_wallet::sign_tx` asks the device to sign.

The payload has room for 255 bytes and its size is fixed at 36, whatever the
length of `raw_tx`.

Owns: the request that a call writes, the condition under which that request
carries the arguments, and when two calls write the same request.
-/

namespace MhWallet

open MhWallet.Bytes MhWallet.Effect MhWallet.Method MhWallet.Framing

namespace NanosWallet

variable {σ : Type} (tb : Toolbox) (hid : Hidapi σ) {wallet : NanosWallet} {world : World σ}

/-! ## The request -/

/-- The 32 bytes of `raw_tx` that fit the payload. -/
def signedHash (rawTx : Bytes) : Bytes := (padTo 32 rawTx).take 32

theorem signedHash_length (rawTx : Bytes) : (signedHash rawTx).length = 32 := by
  simp only [signedHash, padTo, List.length_take, List.length_append, List.length_replicate]
  omega

theorem signedHash_of_length {rawTx : Bytes} (exact : rawTx.length = 32) :
    signedHash rawTx = rawTx := by
  rw [signedHash, padTo, exact, Nat.sub_self, List.replicate_zero, List.append_nil,
    List.take_of_length_le (Nat.le_of_eq exact)]

/-- The bytes of a request to sign. -/
def signRequest (header rawTx : Bytes) (deriveIndex : UInt32) : Bytes :=
  header ++ bigEndian 4 deriveIndex.toNat ++ rawTx

/-- Class, instruction, two parameters and the payload size. -/
def signHeader : Bytes := [deviceClass, cmdSignTx, 0, 0, 36]

theorem unsignedHash_eq (rawTx : Bytes) (deriveIndex : UInt32) :
    unsignedHash tb rawTx deriveIndex =
      bigEndian 4 deriveIndex.toNat ++ padTo 32 rawTx := by
  have index : overwrite (List.replicate 36 0) 0 (bigEndian 4 deriveIndex.toNat) =
      bigEndian 4 deriveIndex.toNat ++ List.replicate 32 0 := by
    simp [overwrite]
  have rest : (bigEndian 4 deriveIndex.toNat ++ List.replicate 32 0).drop
      (4 + rawTx.length) = List.replicate (32 - rawTx.length) 0 := by
    rw [List.drop_append, bigEndian_length, List.drop_eq_nil_of_le (by simp),
      List.nil_append, Nat.add_sub_cancel_left, List.drop_replicate]
  have room : 4 - (bigEndian 4 deriveIndex.toNat ++ List.replicate 32 0).length = 0 := by
    rw [List.length_append, bigEndian_length]
    omega
  simp only [unsignedHash, Toolbox.bytesData_eq, Toolbox.write_eq, Toolbox.uint32Bytes_eq]
  rw [index, overwrite, List.take_left' (bigEndian_length 4 _), rest, room,
    List.replicate_zero, List.append_nil, List.append_assoc]
  rfl

theorem copyPayload_run {content : Bytes} (fits : content.length ≤ 255) (apdu : Apdu)
    (scene : Scene NanosWallet σ) :
    ∃ payload : Vector UInt8 255,
      (copyPayload content apdu).run scene = (.ok { apdu with payload }, scene) ∧
        payload.toList = content ++ apdu.payload.toList.drop content.length := by
  rw [copyPayload, dif_pos fits]
  exact ⟨_, rfl, rfl⟩

/-- The copy of a buffer longer than the payload writes past its end. -/
theorem copyPayload_run_of_long {content : Bytes} (long : 255 < content.length)
    (apdu : Apdu) (scene : Scene NanosWallet σ) :
    (copyPayload content apdu).run scene = (.error .undefined, scene) := by
  rw [copyPayload, dif_neg (by omega)]
  rfl

/-- The `APDU` of a call, as far as `raw_tx` fits the payload array. -/
theorem signTx_apdu (rawTx : Bytes) (deriveIndex : UInt32) (fits : rawTx.length ≤ 251)
    (scene : Scene NanosWallet σ) :
    ∃ apdu, (copyPayload (unsignedHash tb rawTx deriveIndex) signTxApdu).run scene =
        (.ok apdu, scene) ∧
      apdu.payloadSize = 36 ∧
      apdu.encoded = signRequest signHeader (signedHash rawTx) deriveIndex := by
  have length : (unsignedHash tb rawTx deriveIndex).length = 4 + max 32 rawTx.length := by
    rw [unsignedHash_eq]
    simp only [List.length_append, bigEndian_length, padTo, List.length_replicate]
    omega
  obtain ⟨payload, copied, content⟩ :=
    copyPayload_run (by omega : (unsignedHash tb rawTx deriveIndex).length ≤ 255) signTxApdu
      scene
  refine ⟨_, copied, rfl, ?_⟩
  have taken : payload.toList.take 36 =
      bigEndian 4 deriveIndex.toNat ++ signedHash rawTx := by
    rw [content, List.take_append_of_le_length (by omega), unsignedHash_eq,
      List.take_append, bigEndian_length,
      List.take_of_length_le (by rw [bigEndian_length]; decide)]
    rfl
  rw [Apdu.encoded, signRequest, List.append_assoc]
  exact congrArg (signHeader ++ ·) taken

/-- A short message travels in one report. -/
theorem outputReports_of_short {message : Bytes} (nonempty : message ≠ [])
    (short : message.length ≤ 59) : outputReports message = [reportHeader 0 ++ message] := by
  have positive := List.length_pos_iff.mpr nonempty
  have one : chunkCount 59 message.length = 1 := by
    unfold chunkCount
    omega
  rw [outputReports, one]
  simp [outputReport, chunk, List.take_of_length_le short]

/-- The only report of a request to sign 32 bytes. -/
def signReport (hash : Bytes) (deriveIndex : UInt32) : Bytes :=
  reportHeader 0 ++ requestMessage (signRequest signHeader hash deriveIndex)

theorem signRequest_length {hash : Bytes} (exact : hash.length = 32) (deriveIndex : UInt32) :
    (signRequest signHeader hash deriveIndex).length = 41 := by
  simp [signRequest, signHeader, exact]

theorem signReports_eq {hash : Bytes} (exact : hash.length = 32) (deriveIndex : UInt32) :
    outputReports (requestMessage (signRequest signHeader hash deriveIndex)) =
      [signReport hash deriveIndex] := by
  have length := signRequest_length exact deriveIndex
  rw [outputReports_of_short]
  · rfl
  · simp [requestMessage, bigEndian]
  · simp [requestMessage, length]

/-- Reports of 32 bytes each tell their arguments apart. -/
theorem signReport_injective {left right : Bytes} (leftExact : left.length = 32)
    (rightExact : right.length = 32) {leftIndex rightIndex : UInt32} :
    signReport left leftIndex = signReport right rightIndex ↔
      leftIndex = rightIndex ∧ left = right := by
  constructor
  · intro same
    have requests := List.append_cancel_left same
    rw [requestMessage, requestMessage, signRequest_length leftExact,
      signRequest_length rightExact] at requests
    have contents := List.append_cancel_left requests
    rw [signRequest, signRequest, List.append_assoc, List.append_assoc] at contents
    obtain ⟨indices, hashes⟩ :=
      List.append_inj (List.append_cancel_left contents) (by simp)
    refine ⟨UInt32.toNat_inj.mp ?_, hashes⟩
    exact bigEndian_injective leftIndex.toNat_lt rightIndex.toNat_lt indices
  · rintro ⟨rfl, rfl⟩
    rfl

/-! ## The call -/

/-- The last steps of `sign_tx`, on the response. -/
def signature (response : Bytes) : Method NanosWallet σ Signature := do
  let r ← orOutOfRange (tb.takeFirst response 32)
  let s ← orOutOfRange (tb.takeRange response 32 64)
  let v ← orOutOfRange (tb.takeLast response 1)
  return { r, s, v, success := true }

/-- The slices are cut from any response of at least 64 bytes. -/
theorem signature_run (response : Bytes) (scene : Scene NanosWallet σ) :
    (signature tb response).run scene =
      (if 64 ≤ response.length then
        .ok { r := response.take 32, s := (response.drop 32).take 32,
              v := response.drop (response.length - 1), success := true }
      else .error (.throws .outOfRange), scene) := by
  unfold signature
  simp only [Action.run_bind, tb.takeFirst_eq, tb.takeRange_eq, tb.takeLast_eq]
  by_cases enough : 64 ≤ response.length
  · have last : (response.drop (response.length - 1)).take
        (response.length - (response.length - 1)) = response.drop (response.length - 1) :=
      List.take_of_length_le (Nat.le_of_eq List.length_drop)
    rw [slice?_of_le (Nat.zero_le 32) (by omega), slice?_of_le (by decide) enough,
      if_pos (by omega), slice?_of_le (Nat.sub_le _ _) (Nat.le_refl _), last, if_pos enough]
    rfl
  · rw [if_neg enough, slice?_of_not (fun bounds => enough bounds.2)]
    rcases slice? response 0 32 with _ | r <;> rfl

/-- What follows the exchange of a call makes no further call of hidapi. -/
theorem signTx_run {rawTx : Bytes} {deriveIndex : UInt32} (fits : rawTx.length ≤ 251)
    (retries : Nat) (scene : Scene NanosWallet σ) :
    ∃ apdu, apdu.payloadSize = 36 ∧
      apdu.encoded = signRequest signHeader (signedHash rawTx) deriveIndex ∧
      ((signTx tb hid retries rawTx deriveIndex).run scene).2 =
        ((exchange tb hid retries apdu (some codeSuccess)).run scene).2 ∧
      (∀ exception reached, (exchange tb hid retries apdu (some codeSuccess)).run scene =
          (.error (.throws exception), reached) →
        ((signTx tb hid retries rawTx deriveIndex).run scene).1 =
          .error (.throws exception)) ∧
      (∀ reached, (exchange tb hid retries apdu (some codeSuccess)).run scene =
          (.ok ([], some codeSuccess), reached) →
        ((signTx tb hid retries rawTx deriveIndex).run scene).1 =
          .error (.throws .outOfRange)) := by
  obtain ⟨apdu, copied, size, encoded⟩ := signTx_apdu tb rawTx deriveIndex fits scene
  refine ⟨apdu, size, encoded, ?_⟩
  have split : (signTx tb hid retries rawTx deriveIndex).run scene =
      (do
        let response ← command tb hid retries apdu "Unable to sign transaction: "
        signature tb response : Method NanosWallet σ Signature).run scene := by
    rw [signTx, signTxResponse, bind_assoc]
    exact Action.run_bind_ok copied _
  rw [split]
  simp only [command, Action.run_bind]
  rcases (exchange tb hid retries apdu (some codeSuccess)).run scene with
    ⟨reason | ⟨response, status⟩, reached⟩
  · refine ⟨rfl, ?_, ?_⟩
    · rintro exception after same
      simp only [Prod.mk.injEq] at same
      rw [same.1]
    · rintro after same
      simp at same
  · have sameScene : ((signature tb response).run reached).2 = reached := by
      rw [signature_run]
    refine ⟨?_, ?_, ?_⟩
    · rcases status with _ | status
      · exact sameScene
      · by_cases failed : status ≠ codeSuccess
        · simp only [if_pos failed, run_throw]
        · simp only [if_neg failed]
          exact sameScene
    · rintro exception after same
      simp at same
    · rintro after same
      simp only [Prod.mk.injEq, Except.ok.injEq] at same
      obtain ⟨⟨rfl, rfl⟩, rfl⟩ := same
      exact congrArg Prod.fst (signature_run tb [] reached)

/-- The call throws before it writes anything, or writes the reports of one
`APDU` whose payload is the index and all of `raw_tx`, once for each attempt. -/
def SignsExactly (retries : Nat) (rawTx : Bytes) (deriveIndex : UInt32)
    (wallet : NanosWallet) (world : World σ) : Prop :=
  let ran := (signTx tb hid retries rawTx deriveIndex).run ⟨wallet, world⟩
  ((∃ exception, ran.1 = .error (.throws exception)) ∧ ran.2.world.writesSince world = []) ∨
    ∃ header attempts, header.length = 5 ∧ 0 < attempts ∧
      ran.2.world.writesSince world = (List.replicate attempts
        (outputReports (requestMessage (signRequest header rawTx deriveIndex)))).flatten

/-- The reports of a message are its first report and more. -/
theorem outputReports_cons {message : Bytes} (nonempty : message ≠ []) :
    ∃ more, outputReports message = outputReport message 0 :: more := by
  have positive := List.length_pos_iff.mpr nonempty
  rw [outputReports, chunkCount_succ (by decide) positive, List.range_succ_eq_map,
    List.map_cons]
  exact ⟨_, rfl⟩

/-- A request that starts with a report of 32 bytes has a payload of 32 bytes. -/
theorem length_of_signReport_head {header rawTx hash : Bytes} {attempts : Nat}
    {deriveIndex signedIndex : UInt32} (headerLength : header.length = 5)
    (hashLength : hash.length = 32)
    (head : (List.replicate attempts (outputReports
      (requestMessage (signRequest header rawTx deriveIndex)))).flatten.head? =
        some (signReport hash signedIndex)) : rawTx.length = 32 := by
  obtain ⟨more, reports⟩ :=
    @outputReports_cons (requestMessage (signRequest header rawTx deriveIndex))
      (by simp [requestMessage, bigEndian])
  rcases attempts with _ | attempts
  · simp at head
  · rw [List.replicate_succ, List.flatten_cons, reports, List.cons_append, List.head?_cons,
      Option.some.injEq, outputReport, signReport] at head
    have lengths := congrArg List.length (List.append_cancel_left head)
    rw [chunk_length] at lengths
    simp only [requestMessage, List.length_append, bigEndian_length,
      signRequest_length hashLength] at lengths
    simp only [signRequest, List.length_append, bigEndian_length, headerLength] at lengths
    omega

/-- The reports of a call, whatever becomes of it: copies of one report. -/
theorem signTx_writes {rawTx : Bytes} {deriveIndex : UInt32} (ready : Ready wallet world)
    (free : Mutex.wallet ∉ world.held) (fits : rawTx.length ≤ 251) (retries : Nat) :
    ∃ attempts,
      ((signTx tb hid retries rawTx deriveIndex).run ⟨wallet, world⟩).2.world.writesSince
          world =
        (List.replicate attempts [signReport (signedHash rawTx) deriveIndex]).flatten ∧
      (0 < attempts ↔ wallet.mValid = true ∧ wallet.mFramer.mIo.mDev ≠ none) := by
  obtain ⟨apdu, size, encoded, sameScene, -, -⟩ :=
    @signTx_run σ tb hid rawTx deriveIndex fits retries ⟨wallet, world⟩
  obtain ⟨attempts, written, reached⟩ :=
    @exchange_writes σ tb hid wallet world apdu (some codeSuccess) (by omega) ready free
      retries
  refine ⟨attempts, ?_, reached⟩
  rw [sameScene, written, requestReports, encoded, signReports_eq (signedHash_length rawTx)]

theorem signTx_run_of_long {rawTx : Bytes} {deriveIndex : UInt32} (long : 251 < rawTx.length)
    (retries : Nat) (scene : Scene NanosWallet σ) :
    (signTx tb hid retries rawTx deriveIndex).run scene = (.error .undefined, scene) := by
  have length : 255 < (unsignedHash tb rawTx deriveIndex).length := by
    rw [unsignedHash_eq]
    simp only [List.length_append, bigEndian_length, padTo, List.length_replicate]
    omega
  rw [signTx, signTxResponse, bind_assoc]
  exact Action.run_bind_error (copyPayload_run_of_long length signTxApdu scene) _

/-- A call that reaches no device throws and writes nothing. -/
theorem signsExactly_of_unconnected {rawTx : Bytes} {deriveIndex : UInt32}
    (ready : Ready wallet world) (free : Mutex.wallet ∉ world.held)
    (fits : rawTx.length ≤ 251) (retries : Nat)
    (unconnected : ¬ (wallet.mValid = true ∧ wallet.mFramer.mIo.mDev ≠ none)) :
    SignsExactly tb hid retries rawTx deriveIndex wallet world := by
  obtain ⟨attempts, written, reached⟩ :=
    @signTx_writes _ tb hid wallet world rawTx deriveIndex ready free fits retries
  obtain ⟨apdu, -, -, -, onThrow, onEmpty⟩ :=
    @signTx_run σ tb hid rawTx deriveIndex fits retries ⟨wallet, world⟩
  have none : attempts = 0 := by
    by_contra some
    exact unconnected (reached.mp (Nat.pos_of_ne_zero some))
  refine .inl ⟨?_, by rw [written, none]; rfl⟩
  rcases valid : wallet.mValid with _ | _
  · exact ⟨_, onThrow _ _ (exchange_run_of_invalid tb hid free valid retries)⟩
  · have null : wallet.mFramer.mIo.mDev = .none := by
      by_contra live
      exact unconnected ⟨valid, live⟩
    exact ⟨_, onEmpty _ (exchange_run_of_null tb hid free valid null retries)⟩

/-- `sign_tx` asks for exactly its arguments if `raw_tx` has 32 bytes, or if it
fits the payload array and no device is reached; and two calls that reach a
device start with the same report exactly if they agree on the index and on the
32 bytes that `raw_tx` is cut or padded to. -/
theorem signTx_asks_for_arguments_iff (ready : Ready wallet world)
    (free : Mutex.wallet ∉ world.held) (retries : Nat) (rawTx : Bytes)
    (deriveIndex : UInt32) :
    (SignsExactly tb hid retries rawTx deriveIndex wallet world ↔
      rawTx.length = 32 ∨ (rawTx.length ≤ 251 ∧
        (wallet.mValid = false ∨ wallet.mFramer.mIo.mDev = none))) ∧
    ∀ (τ : Type) (hid' : Hidapi τ) (wallet' : NanosWallet) (world' : World τ)
      (retries' : Nat) (rawTx' : Bytes) (deriveIndex' : UInt32),
      Ready wallet' world' → Mutex.wallet ∉ world'.held →
      let written := ((signTx tb hid retries rawTx deriveIndex).run
        ⟨wallet, world⟩).2.world.writesSince world
      let written' := ((signTx tb hid' retries' rawTx' deriveIndex').run
        ⟨wallet', world'⟩).2.world.writesSince world'
      written ≠ [] → written' ≠ [] →
      (written.head? = written'.head? ↔
        deriveIndex = deriveIndex' ∧ signedHash rawTx = signedHash rawTx') := by
  have head : ∀ {τ : Type} (hid : Hidapi τ) {wallet : NanosWallet} {world : World τ}
      (retries : Nat) (rawTx : Bytes) (deriveIndex : UInt32), Ready wallet world →
      Mutex.wallet ∉ world.held →
      ((signTx tb hid retries rawTx deriveIndex).run ⟨wallet, world⟩).2.world.writesSince
        world ≠ [] →
      (((signTx tb hid retries rawTx deriveIndex).run ⟨wallet, world⟩).2.world.writesSince
        world).head? = some (signReport (signedHash rawTx) deriveIndex) := by
    intro τ hid wallet world retries rawTx deriveIndex ready free wrote
    by_cases fits : rawTx.length ≤ 251
    · obtain ⟨attempts, written, -⟩ :=
        @signTx_writes _ tb hid wallet world rawTx deriveIndex ready free fits retries
      rw [written] at wrote ⊢
      rcases attempts with _ | attempts
      · simp at wrote
      · simp [List.replicate_succ]
    · rw [signTx_run_of_long tb hid (by omega)] at wrote
      simp [World.writesSince, writtenReports] at wrote
  refine ⟨⟨?_, ?_⟩, ?_⟩
  · rintro (⟨⟨exception, thrown⟩, quiet⟩ | ⟨header, attempts, headerLength, positive, written⟩)
    · by_cases fits : rawTx.length ≤ 251
      · refine .inr ⟨fits, ?_⟩
        obtain ⟨attempts, written, reached⟩ :=
          @signTx_writes _ tb hid wallet world rawTx deriveIndex ready free fits retries
        have none : attempts = 0 := by
          rw [quiet] at written
          rcases attempts with _ | attempts
          · rfl
          · simp [List.replicate_succ] at written
        have unconnected := mt reached.mpr (by omega)
        rcases valid : wallet.mValid with _ | _
        · exact .inl rfl
        · exact .inr (by
            by_contra live
            exact unconnected ⟨valid, live⟩)
      · rw [signTx_run_of_long tb hid (by omega)] at thrown
        simp at thrown
    · have wrote : ((signTx tb hid retries rawTx deriveIndex).run
          ⟨wallet, world⟩).2.world.writesSince world ≠ [] := by
        obtain ⟨more, reports⟩ :=
          @outputReports_cons (requestMessage (signRequest header rawTx deriveIndex))
            (by simp [requestMessage, bigEndian])
        obtain ⟨attempts, rfl⟩ := Nat.exists_eq_succ_of_ne_zero (Nat.ne_of_gt positive)
        rw [written, List.replicate_succ, List.flatten_cons, reports]
        exact List.cons_ne_nil _ _
      have first := head hid retries rawTx deriveIndex ready free wrote
      rw [written] at first
      exact .inl (length_of_signReport_head headerLength (signedHash_length rawTx) first)
  · rintro (exact | ⟨fits, unconnected⟩)
    · by_cases connected : wallet.mValid = true ∧ wallet.mFramer.mIo.mDev ≠ none
      · obtain ⟨attempts, written, reached⟩ :=
          @signTx_writes _ tb hid wallet world rawTx deriveIndex ready free (by omega) retries
        refine .inr ⟨signHeader, attempts, rfl, reached.mpr connected, ?_⟩
        rw [written, signedHash_of_length exact, signReports_eq exact]
      · exact signsExactly_of_unconnected tb hid ready free (by omega) retries connected
    · apply signsExactly_of_unconnected tb hid ready free fits retries
      rintro ⟨valid, live⟩
      rcases unconnected with invalid | null
      · simp [valid] at invalid
      · exact live null
  · intro τ hid' wallet' world' retries' rawTx' deriveIndex' ready' free' written written'
      wrote wrote'
    rw [show written.head? = _ from head hid retries rawTx deriveIndex ready free wrote,
      show written'.head? = _ from head hid' retries' rawTx' deriveIndex' ready' free' wrote',
      Option.some.injEq]
    exact signReport_injective (signedHash_length rawTx) (signedHash_length rawTx')

theorem signTx_asks_for_hash :
    SignsExactly Toolbox.reference Script.device 0 (List.replicate 32 7) 5 connected
      (Script.ofReads []).world :=
  (signTx_asks_for_arguments_iff Toolbox.reference Script.device (connected_ready _)
    List.not_mem_nil 0 (List.replicate 32 7) 5).1.mpr (.inl List.length_replicate)

/-- The last of 33 bytes is not signed. -/
theorem signTx_truncates :
    ¬ ∀ (tb : Toolbox) (hid : Hidapi Script) (retries : Nat) (rawTx : Bytes)
        (deriveIndex : UInt32) (wallet : NanosWallet) (world : World Script),
      Ready wallet world → Mutex.wallet ∉ world.held →
      SignsExactly tb hid retries rawTx deriveIndex wallet world := by
  intro exactly
  have written : (((signTx Toolbox.reference Script.device 0 (List.replicate 33 7) 5).run
      ⟨connected, (Script.ofReads []).world⟩).2.world.writesSince
        (Script.ofReads []).world) = [signReport (List.replicate 32 7) 5] := by
    decide +kernel
  rcases exactly Toolbox.reference Script.device 0 (List.replicate 33 7) 5 connected
    (Script.ofReads []).world (connected_ready _) List.not_mem_nil with
    ⟨-, quiet⟩ | ⟨header, attempts, headerLength, -, copies⟩
  · rw [written] at quiet
    simp at quiet
  · have head := congrArg List.head? (copies.symm.trans written)
    have length := length_of_signReport_head headerLength List.length_replicate head
    rw [List.length_replicate] at length
    omega

end NanosWallet

end MhWallet
