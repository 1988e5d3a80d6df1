import MhWallet.Framing.Ordering

/-!
Contract: what an exchange makes of a read that did not deliver a report.

Such a read stores nothing and counts 5, so the loop may end with a part of the
buffer that no report has filled.

Owns: the reads after which an exchange does not throw although one of them
failed, and that these are all.

Does not own: what the caller makes of the response.
-/

namespace MhWallet

open MhWallet.Bytes MhWallet.Effect MhWallet.Method MhWallet.Framing

/-- A read that delivered anything but a report of 64 bytes. -/
def ReadResult.Failed (result : ReadResult) : Prop :=
  toSizeT result.res ≠ 64 ∨ result.error ≠ none

namespace FrameIoApdu

/-- The size of the buffer after this many reports, with this `m_offset` at the
start. -/
def bufferSize (offset reports : Nat) : Nat :=
  if reports ≤ 1 then 255 else max 255 (offset + 64 * (reports - 1) + 54)

private theorem absorbAll_length_later {index : Nat} {results : List ReadResult}
    {framer : FrameIoApdu} {buffer : Bytes} (inOrder : InOrder index results)
    (expected : framer.mSeq = .ofNat index) (started : 0 < index)
    (few : index + (fullReports results).length ≤ 65536) (behind : 5 ≤ framer.mOffset) :
    (framer.absorbAll buffer results).1.length =
      if (fullReports results).length = 0 then buffer.length
      else max buffer.length
        (framer.mOffset - 5 + 64 * ((fullReports results).length - 1) + 59) := by
  induction results generalizing framer index buffer with
  | nil => rfl
  | cons result results inductionHypothesis =>
      obtain ⟨reached, next, absorbed, -, -, kind⟩ :=
        absorb_inOrder inOrder expected buffer
      simp only [absorbAll, absorbed]
      rcases kind with ⟨short, later, rfl, seq, offset⟩ | ⟨full, later, rfl, seq, offset⟩
      · rw [fullReports_short short] at few ⊢
        rw [inductionHypothesis later seq started few (by omega), offset]
      · rw [fullReports_full full, List.length_cons] at few ⊢
        have counted : framer.mSeq ≠ 0 := by
          rw [expected, Ne, ← UInt16.toNat_inj, UInt16.toNat_ofNat']
          have zero : (0 : UInt16).toNat = 0 := rfl
          omega
        have size : (overwrite buffer framer.writePosition ((result.buffer 64).drop 5)).length =
            max buffer.length (framer.mOffset - 5 + 59) := by
          rw [overwrite_length, FrameIo.writePosition, if_neg counted, List.length_drop,
            ReadResult.buffer_length]
        rw [inductionHypothesis later seq (Nat.succ_pos _) (by omega) (by omega), offset, size,
          if_neg (Nat.succ_ne_zero _)]
        split <;> omega

/-- The buffer grows with the third report at the earliest. -/
theorem absorbAll_length {results : List ReadResult} {framer : FrameIoApdu}
    (inOrder : InOrder 0 results) (restarted : framer.mSeq = 0)
    (few : (fullReports results).length ≤ 65536) :
    (framer.absorbAll blank results).1.length =
      bufferSize framer.mOffset (fullReports results).length := by
  induction results generalizing framer with
  | nil => exact blank_length
  | cons result results inductionHypothesis =>
      obtain ⟨reached, next, absorbed, -, -, kind⟩ :=
        absorb_inOrder inOrder restarted blank
      simp only [absorbAll, absorbed]
      rcases kind with ⟨short, later, rfl, seq, offset⟩ | ⟨full, later, rfl, seq, offset⟩
      · rw [fullReports_short short] at few ⊢
        rw [inductionHypothesis later seq few, offset]
      · rw [fullReports_full full, List.length_cons] at few ⊢
        have size : (overwrite blank framer.writePosition
            ((result.buffer 64).drop 5)).length = 255 := by
          rw [overwrite_length, FrameIo.writePosition, if_pos restarted, List.length_drop,
            ReadResult.buffer_length, blank_length]
          rfl
        rw [absorbAll_length_later later seq (Nat.succ_pos _) (by omega) (by omega), offset,
          size, bufferSize]
        split
        · rw [if_pos (by omega)]
        · rw [if_neg (by omega)]
          omega

/-- The totals that the buffer has both slices of. -/
theorem decode_returns_iff {total : UInt16} {buffer : Bytes} {statusCode : Option UInt16} :
    (∃ answer, decode total buffer statusCode = .ok answer) ↔
      total.toNat < 2 ∨ 4 ≤ total.toNat ∧ total.toNat ≤ buffer.length := by
  have long : total ≥ 2 ↔ 2 ≤ total.toNat := Iff.rfl
  unfold decode slice?
  by_cases two : 2 ≤ total.toNat
  · rw [if_pos (long.mpr two)]
    by_cases first : 2 ≤ total.toNat - 2 ∧ total.toNat - 2 ≤ buffer.length
    · rw [if_pos first]
      by_cases second : total.toNat - 2 ≤ total.toNat ∧ total.toNat ≤ buffer.length
      · rw [if_pos second]
        exact ⟨fun _ => .inr (by omega), fun _ => ⟨_, rfl⟩⟩
      · rw [if_neg second]
        exact ⟨fun returned => absurd returned (by simp), fun fits => by omega⟩
    · rw [if_neg first]
      exact ⟨fun returned => absurd returned (by simp), fun fits => by omega⟩
  · rw [if_neg fun order => two (long.mp order)]
    exact ⟨fun _ => .inl (by omega), fun _ => ⟨_, rfl⟩⟩

/-- A decoding that does not return throws. -/
theorem decode_throws {total : UInt16} {buffer : Bytes} {statusCode : Option UInt16}
    (refused : ¬ ∃ answer, decode total buffer statusCode = .ok answer) :
    ∃ exception, decode total buffer statusCode = .error (.throws exception) := by
  unfold decode at refused ⊢
  split
  · split
    · simp_all
    · exact ⟨_, rfl⟩
  · simp_all

/-- The reads that an exchange goes through hide a failed one: they end with an
error, after which the call deadlocks, or one of them was short and then either
no further read comes back or the count reaches a total that the buffer has. -/
def HidesFailure (framer : FrameIoApdu) (results : List ReadResult) : Prop :=
  ∃ taken more, results = taken ++ more ∧ framer.Passed taken ∧
    ((framer.Wants taken ∧ ∃ result rest, more = result :: rest ∧ result.error ≠ none) ∨
      (∃ result ∈ taken, toSizeT result.res ≠ 64) ∧
        ((framer.Wants taken ∧ more = []) ∨
          (¬ framer.Wants taken ∧ 4 ≤ announced taken ∧
            announced taken ≤ bufferSize framer.mOffset (fullReports taken).length)))

/-- A failed read among these makes the call throw. -/
def ThrowsOnFailure (reads : List (Option ReadResult))
    (outcome : Except Stop (Bytes × Option UInt16)) : Prop :=
  (∃ result, some result ∈ reads ∧ result.Failed) →
    ∃ exception, outcome = .error (.throws exception)

variable {framer : FrameIoApdu}

/-- Of the reads that an exchange goes through, a failed one is short. -/
theorem Passed.short_of_failed {taken : List ReadResult} (passed : framer.Passed taken)
    {result : ReadResult} (member : result ∈ taken) (failed : result.Failed) :
    toSizeT result.res ≠ 64 :=
  failed.resolve_right fun error => error (passed.inOrder.clean result member)

/-- After a short read the exchange waits for two bytes at least. -/
theorem Passed.announced_of_short {taken : List ReadResult} (passed : framer.Passed taken)
    {result : ReadResult} (member : result ∈ taken) (short : toSizeT result.res ≠ 64) :
    2 ≤ announced taken := by
  rcases taken with _ | ⟨first, rest⟩
  · exact absurd member List.not_mem_nil
  · by_cases full : toSizeT first.res = 64
    · -- The short read is a later one, so that the first left something to wait for.
      rcases rest with _ | ⟨second, rest⟩
      · rw [List.mem_singleton] at member
        exact absurd full (member ▸ short)
      · have wants := passed.wanted 1 (by simp)
        rcases wants with empty | less
        · exact absurd empty (by simp)
        · have same : announced ((first :: second :: rest).take 1) =
              announced (first :: second :: rest) := rfl
          have one : credited ((first :: second :: rest).take 1) = 64 := by
            simp [credited, credit, full]
          omega
    · simp only [announced, if_neg full]
      exact Nat.le_refl 2

variable {σ : Type} {tb : Toolbox} {hid : Hidapi σ}

/-- A read that delivered nothing. -/
def emptyRead : ReadResult := { res := 0, data := [], error := none }

/-- The world of a device that makes these reads. -/
def readsWorld (reads : List ReadResult) : World Script := (Script.ofReads reads).world

/-- The exchange of a new framer with that device. -/
def readsRun (reads : List ReadResult) :
    Except Stop (Bytes × Option UInt16) × Scene FrameIoApdu Script :=
  (exchange Toolbox.reference Script.device NanosWallet.getAppVersionApdu (some 0)).run
    ⟨fresh Toolbox.reference .connected, readsWorld reads⟩

theorem readsWorld_reached (reads : List ReadResult) :
    Reached Toolbox.reference Script.device
      ⟨fresh Toolbox.reference .connected, readsWorld reads⟩ :=
  .fresh .connected rfl

/-- A response of 62 bytes, of which the second report never comes. -/
def halfResponse : List ReadResult :=
  [.ofReport (inputReport (responseMessage (List.replicate 62 7) 0x6985) 0), emptyRead]

end FrameIoApdu

end MhWallet
