import MhWallet.Framing.Decoding

/-!
Contract: what a framer that has made calls before does differently from a new
one.

`reset` clears `m_seq`; `m_offset` and `rn` are cleared by a call that returns
and by nothing else.

Owns: the states in which a framer can be between two calls, and the exact
condition under which its next call is that of a new framer.
-/

namespace MhWallet

open MhWallet.Bytes MhWallet.Effect MhWallet.Method MhWallet.Framing

namespace FrameIoApdu

variable {σ : Type} (tb : Toolbox) (hid : Hidapi σ)

/-- The device of a framer, as a component of the framer. -/
def device : Lens FrameIoApdu HidppDevice where
  get framer := framer.mIo
  put mIo framer := { framer with mIo }
  get_put _ _ := rfl
  put_get _ := rfl
  put_put _ _ _ := rfl

/-- The scenes between two calls on one framer: the calls before came back, each
by a return or by an exception, and the device may have been closed and opened
between them. -/
inductive Reached : Scene FrameIoApdu σ → Prop
  | fresh (mIo : HidppDevice) {world : World σ} (idle : world.held = []) :
      Reached ⟨fresh tb mIo, world⟩
  | exchange {scene : Scene FrameIoApdu σ} (reached : Reached scene) (apdu : Apdu)
      (statusCode : Option UInt16)
      (ended : Ended ((exchange tb hid apdu statusCode).run scene).1) :
      Reached ((exchange tb hid apdu statusCode).run scene).2
  | close {scene : Scene FrameIoApdu σ} (reached : Reached scene) :
      Reached ((onMember device (HidppDevice.close hid)).run scene).2
  | «open» {scene : Scene FrameIoApdu σ} (reached : Reached scene) :
      Reached ((onMember device (HidppDevice.open hid)).run scene).2

variable {tb hid}

/-- Between two calls no mutex is held. -/
theorem Reached.idle {scene : Scene FrameIoApdu σ} (reached : Reached tb hid scene) :
    scene.world.held = [] ∧ scene.self.mBuffer.length ≤ 64 := by
  induction reached with
  | fresh mIo idle => exact ⟨idle, by simp⟩
  | @exchange scene _ apdu statusCode ended inductionHypothesis =>
      obtain ⟨idle, room⟩ := inductionHypothesis
      have free : scene.self.mIo.mDevLock ∉ scene.world.held := World.free_of_idle idle _
      rcases device : scene.self.mIo.mDev with _ | handle
      · by_cases small : apdu.payloadSize ≤ 255
        · rw [exchange_run_of_null tb hid small device free] at ended
          simp [Ended, Stop.Unwinds] at ended
        · rw [exchange_run_of_large tb hid (by omega)]
          exact ⟨idle, room⟩
      · obtain ⟨env, reports, results, sameWorld, -, -, sameRoom⟩ :=
          exchange_ended tb hid device free room rfl ended
        rw [sameWorld]
        exact ⟨idle, sameRoom⟩
  | @close scene _ inductionHypothesis =>
      obtain ⟨idle, room⟩ := inductionHypothesis
      have free : scene.self.mIo.mDevLock ∉ scene.world.held := World.free_of_idle idle _
      rw [run_onMember]
      simp only [device, HidppDevice.close_run hid free]
      split <;> exact ⟨idle, room⟩
  | @«open» scene _ inductionHypothesis =>
      obtain ⟨idle, room⟩ := inductionHypothesis
      have free : scene.self.mIo.mDevLock ∉ scene.world.held := World.free_of_idle idle _
      rw [run_onMember]
      simp only [device, HidppDevice.open_run hid free]
      exact ⟨idle, room⟩

/-! ## The old content of `m_buffer` does not matter -/

theorem absorb_withBuffer (framer : FrameIoApdu) (stale buffer : Bytes)
    (result : ReadResult) :
    { framer with mBuffer := stale : FrameIoApdu }.absorb buffer result =
      match result.error with
      | some _ => (.error (.deadlocks framer.mIo.mDevLock), { framer with mBuffer := stale })
      | none => framer.absorb buffer result := by
  simp only [absorb]
  cases result.error <;> rfl

theorem receive_withBuffer (framer : FrameIoApdu) (stale : Bytes)
    (statusCode : Option UInt16) (results : List ReadResult) :
    ({ framer with mBuffer := stale : FrameIoApdu }.receive statusCode results).outcome =
        (framer.receive statusCode results).outcome ∧
      ({ framer with mBuffer := stale : FrameIoApdu }.receive statusCode results).calls =
        (framer.receive statusCode results).calls := by
  cases results with
  | nil => exact ⟨rfl, rfl⟩
  | cons first rest =>
      rcases failure : first.error with _ | message
      · simp only [receive, absorb_withBuffer, failure, and_self]
      · simp only [receive, absorb_withBuffer, failure]
        simp only [absorb, failure, and_self]

/-! ## The old counters do -/

/-- A response of two reports, whose second report carries six bytes. -/
def longResponse : Bytes := responseMessage (List.replicate 61 1) 0x9000

private theorem longResponse_first {framer : FrameIoApdu} (restarted : framer.mSeq = 0) :
    framer.absorb (List.replicate 255 0) (.ofReport (inputReport longResponse 0)) =
      (.ok (assembled longResponse 1),
        { framer with mBuffer := inputReport longResponse 0 : FrameIoApdu }.advance) := by
  have position : framer.writePosition = 0 := by
    rw [FrameIo.writePosition, if_pos restarted]
  rw [absorb_inputReport (restarted.trans rfl), position]
  rfl

private theorem longResponse_total :
    declaredTotal (assembled longResponse 1) = .ofNat (61 + 4) :=
  declaredTotal_assembled (by decide) (by decide)

/-- A framer that still counts an earlier report is content with the first one. -/
theorem receive_one_report {framer : FrameIoApdu} (restarted : framer.mSeq = 0) :
    (framer.receive (some 0) [.ofReport (inputReport longResponse 0)]).outcome =
      .error .waits ↔ framer.rn = 0 := by
  have total : (UInt16.ofNat (61 + 4)).toNat = 65 := rfl
  simp only [receive, longResponse_first restarted, longResponse_total, total, gather,
    advance]
  by_cases clean : framer.rn = 0
  · simp [clean]
  · rw [if_neg (by omega)]
    simp only [clean, iff_false]
    exact decode_avoids (by simp) _ _ _

/-- A framer that still has an earlier offset stores the second report behind
its place. -/
theorem receive_two_reports {framer : FrameIoApdu} (restarted : framer.mSeq = 0)
    (clean : framer.rn = 0) :
    (framer.receive (some 0) [.ofReport (inputReport longResponse 0),
        .ofReport (inputReport longResponse 1)]).outcome =
      .ok (List.replicate 61 1, some 0x9000) ↔ framer.mOffset = 0 := by
  have total : (UInt16.ofNat (61 + 4)).toNat = 65 := rfl
  have second : ({ framer with mBuffer := inputReport longResponse 0 : FrameIoApdu }.advance).mSeq =
      .ofNat 1 := by
    simp only [advance, FrameIo.advance, restarted]
    rfl
  have place : ({ framer with mBuffer := inputReport longResponse 0 :
      FrameIoApdu }.advance).writePosition = framer.mOffset + 59 := by
    rw [FrameIo.writePosition, second, if_neg (by decide)]
    simp only [advance, FrameIo.advance]
    omega
  have received : (framer.receive (some 0) [.ofReport (inputReport longResponse 0),
      .ofReport (inputReport longResponse 1)]).outcome =
      decode (.ofNat (61 + 4)) (overwrite (assembled longResponse 1) (framer.mOffset + 59)
        (padTo 59 (chunk 59 longResponse 1))) (some 0) := by
    have waiting : ({ framer with mBuffer := inputReport longResponse 0 :
        FrameIoApdu }.advance).rn < 65 := by
      simp [advance, clean]
    simp only [receive, longResponse_first restarted, longResponse_total, total, gather]
    rw [if_pos waiting, absorb_inputReport second, place]
    simp only [Intake.oneMore]
    rw [if_neg (by simp [advance, clean])]
  have spec := decode_eq_iff (List.replicate 61 1) 0x9000 0
    (overwrite (assembled longResponse 1) (framer.mOffset + 59)
      (padTo 59 (chunk 59 longResponse 1))) (by rw [List.length_replicate]; decide)
  rw [List.length_replicate] at spec
  rw [received, spec]
  constructor
  · rintro ⟨-, agrees⟩
    have hit := agrees 59 (by decide) (by decide)
    have expected : byteAt (responseMessage (List.replicate 61 1) 0x9000) 59 = 1 := by decide
    rw [byteAt_overwrite, expected] at hit
    by_contra stale
    rw [if_neg (by omega), byteAt_assembled] at hit
    simp at hit
  · intro aligned
    rw [aligned]
    have agrees : ∀ position < 65,
        byteAt (overwrite (assembled longResponse 1) (0 + 59)
          (padTo 59 (chunk 59 longResponse 1))) position = byteAt longResponse position := by
      decide +kernel
    exact ⟨by decide +kernel, fun position _ within => agrees position within⟩

/-! ## The next call -/

/-- The call of a framer in which the earlier calls have left their state, and
that of a new framer on the same device, end alike and do the same. -/
def AsFresh (tb : Toolbox) (framer : FrameIoApdu) : Prop :=
  ∀ (τ : Type) (hid : Hidapi τ) (world : World τ) (apdu : Apdu)
    (statusCode : Option UInt16), framer.mIo.mDevLock ∉ world.held →
    ((exchange tb hid apdu statusCode).run ⟨framer, world⟩).1 =
        ((exchange tb hid apdu statusCode).run ⟨fresh tb framer.mIo, world⟩).1 ∧
      ((exchange tb hid apdu statusCode).run ⟨framer, world⟩).2.world =
        ((exchange tb hid apdu statusCode).run ⟨fresh tb framer.mIo, world⟩).2.world

theorem asFresh_of_clean {framer : FrameIoApdu} {handle : Handle}
    (live : framer.mIo.mDev = some handle) (room : framer.mBuffer.length ≤ 64)
    (offset : framer.mOffset = 0) (count : framer.rn = 0) : AsFresh tb framer := by
  intro τ hid world apdu statusCode free
  by_cases small : apdu.payloadSize ≤ 255
  · have liveFresh : (fresh tb framer.mIo).mIo.mDev = some handle := live
    have freeFresh : (fresh tb framer.mIo).mIo.mDevLock ∉ world.held := free
    have roomFresh : (fresh tb framer.mIo).mBuffer.length ≤ 64 := by
      simp
    have same : framer.restarted =
        { (fresh tb framer.mIo).restarted with mBuffer := framer.mBuffer } := by
      simp [restarted, fresh, FrameIo.fresh, offset, count]
    rw [exchange_run tb hid small live free room (Nat.le_refl 65536),
      exchange_run tb hid small liveFresh freeFresh roomFresh (Nat.le_refl 65536), same]
    obtain ⟨sameOutcome, sameCalls⟩ := receive_withBuffer (fresh tb framer.mIo).restarted
      framer.mBuffer statusCode (hid.answers handle 65536
        (world.afterWrites hid framer.mIo.mDevLock handle
          (requestReports apdu)).env)
    exact ⟨sameOutcome, congrArg (fun calls => World.afterReads hid framer.mIo.mDevLock handle
      calls (world.afterWrites hid framer.mIo.mDevLock handle
        (requestReports apdu))) sameCalls⟩
  · rw [exchange_run_of_large tb hid (by omega), exchange_run_of_large tb hid (by omega)]
    exact ⟨rfl, rfl⟩

end FrameIoApdu

end MhWallet
