import MhWallet.Framing.History
import MhWallet.Framing.Reading

/-!
Contract: which reports contribute to a response.

Owns: the sequence in which reports have to come, and that an exchange which
returns has read them so, and throws at the first report that does not come so.

Does not own: where the content of the reports goes.
-/

namespace MhWallet

open MhWallet.Bytes MhWallet.Effect MhWallet.Method MhWallet.Framing

/-- A report of this protocol with this number. -/
def Proper (index : Nat) (report : Bytes) : Prop :=
  channelIdOf report = 0x0101 ∧ commandTagOf report = 0x05 ∧ (seqOf report).toNat = index

instance (index : Nat) (report : Bytes) : Decidable (Proper index report) := by
  unfold Proper
  infer_instance

/-- Reports of this protocol with the numbers 0, 1, 2 and so on. -/
def InSequence (reports : List Bytes) : Prop :=
  ∀ index report, reports[index]? = some report → Proper index report

theorem headerFault_eq_none_iff {index : Nat} (small : index < 65536) (report : Bytes) :
    headerFault (.ofNat index) report = none ↔ Proper index report := by
  have number : seqOf report = .ofNat index ↔ (seqOf report).toNat = index := by
    rw [← UInt16.toNat_inj, UInt16.toNat_ofNat', Nat.mod_eq_of_lt small]
  unfold headerFault Proper
  by_cases channel : channelIdOf report = 0x0101
  · by_cases tag : commandTagOf report = 0x05
    · simp only [channel, tag, ne_eq, not_true_eq_false, if_false, true_and, ← number]
      by_cases seq : seqOf report = .ofNat index <;> simp [seq]
    · simp [channel, tag]
  · simp [channel]

/-- A report of this protocol that is refused has a wrong number. -/
theorem headerFault_of_seq {seq : UInt16} {report : Bytes} {fault : Exception}
    (bad : headerFault seq report = some fault) (channel : channelIdOf report = 0x0101)
    (tag : commandTagOf report = 0x05) : fault = .wrongSeqno seq (seqOf report) := by
  unfold headerFault at bad
  simp only [channel, tag, ne_eq, not_true_eq_false, if_false] at bad
  split at bad
  · exact (Option.some.inj bad).symm
  · exact absurd bad (by simp)

/-- Counting upwards from an index is to have the numbers from there on. -/
theorem numbered_iff {index : Nat} {reports : List Bytes}
    (few : index + reports.length ≤ 65536) :
    Numbered index reports ↔
      ∀ place report, reports[place]? = some report → Proper (index + place) report := by
  induction reports generalizing index with
  | nil => simp [Numbered]
  | cons report reports inductionHypothesis =>
      rw [List.length_cons] at few
      rw [Numbered, headerFault_eq_none_iff (by omega), inductionHypothesis (by omega)]
      constructor
      · intro ⟨first, later⟩ place found report
        cases place with
        | zero =>
            rw [List.getElem?_cons_zero, Option.some.injEq] at report
            exact report ▸ first
        | succ place =>
            rw [List.getElem?_cons_succ] at report
            have proper := later place found report
            rwa [Nat.add_assoc, Nat.add_comm 1] at proper
      · intro proper
        refine ⟨proper 0 report rfl, fun place found here => ?_⟩
        have later := proper (place + 1) found here
        rwa [Nat.add_comm place, ← Nat.add_assoc] at later

theorem inSequence_iff {reports : List Bytes} (few : reports.length ≤ 65536) :
    InSequence reports ↔ Numbered 0 reports := by
  rw [numbered_iff (by omega), InSequence]
  simp only [Nat.zero_add]

namespace FrameIoApdu

variable {framer : FrameIoApdu}

/-- An exchange takes no more than 1024 reports. -/
theorem Passed.reports_le {taken : List ReadResult} (passed : framer.Passed taken) :
    (fullReports taken).length ≤ 1024 := by
  rcases List.eq_nil_or_concat taken with rfl | ⟨earlier, last, rfl⟩
  · exact Nat.zero_le _
  · have wants := passed.wanted earlier.length (by simp)
    rw [List.concat_eq_append, List.take_left] at wants
    have one : (fullReports [last]).length ≤ 1 := (credited_eq [last]).2
    have split : (fullReports (earlier ++ [last])).length =
        (fullReports earlier).length + (fullReports [last]).length := by
      rw [fullReports_append, List.length_append]
    rw [List.concat_eq_append, split]
    rcases wants with rfl | less
    · have : (fullReports []).length = 0 := rfl
      omega
    · have size : announced earlier < 65536 := by
        rcases earlier with _ | ⟨first, rest⟩
        · exact Nat.succ_pos _
        · simp only [announced]
          split
          · exact (declaredTotal _).toNat_lt
          · omega
      have count := (credited_eq earlier).1
      omega

theorem Passed.inSequence {taken : List ReadResult} (passed : framer.Passed taken) :
    InSequence (fullReports taken) := by
  have few := passed.reports_le
  exact (inSequence_iff (by omega)).mpr passed.inOrder.numbered

end FrameIoApdu

/-- A read among these reads and one more is one of them, or that one. -/
private theorem split_reads {taken before : List ReadResult} {result : ReadResult}
    {after last : List (Option ReadResult)}
    (same : taken.map some ++ last = before.map some ++ some result :: after) :
    (∃ rest, taken = before ++ result :: rest) ∨
      ∃ middle, before = taken ++ middle ∧ last = middle.map some ++ some result :: after := by
  rcases List.append_eq_append_iff.mp same with ⟨middle, split, rest⟩ | ⟨middle, split, rest⟩
  · obtain ⟨first, second, rfl, firstSame, secondSame⟩ := List.map_eq_append_iff.mp split
    refine .inr ⟨second, ?_, by rw [secondSame, rest]⟩
    rw [List.map_inj_right (fun _ _ => Option.some.inj) |>.mp firstSame]
  · rcases middle with _ | ⟨head, middle⟩
    · rw [List.append_nil] at split
      refine .inr ⟨[], ?_, rest.symm⟩
      rw [List.append_nil, List.map_inj_right (fun _ _ => Option.some.inj) |>.mp split]
    · rw [List.cons_append, List.cons.injEq] at rest
      obtain ⟨rfl, _⟩ := rest
      obtain ⟨first, second, rfl, firstSame, secondSame⟩ := List.map_eq_append_iff.mp split
      obtain ⟨found, rest, rfl, foundSame, _⟩ := List.map_eq_cons_iff.mp secondSame
      rw [Option.some.inj foundSame,
        List.map_inj_right (fun _ _ => Option.some.inj) |>.mp firstSame]
      exact .inl ⟨rest, rfl⟩

namespace FrameIoApdu

variable {σ : Type} {tb : Toolbox} {hid : Hidapi σ}

/-- An exchange that returns has read reports in sequence alone; the first
report out of sequence makes it throw, without a further read and with the
counters that the reports before it have left.  No response leaves a call that
throws. -/
theorem only_reports_in_sequence {scene : Scene FrameIoApdu σ} {handle : Handle}
    (reached : Reached tb hid scene) (live : scene.self.mIo.mDev = some handle)
    (apdu : Apdu) (statusCode : Option UInt16) :
    let ran := (exchange tb hid apdu statusCode).run scene
    (∀ answer, ran.1 = .ok answer → ∃ results : List ReadResult,
      ran.2.world.readsSince scene.world = results.map some ∧
      (∀ result ∈ results, result.error = none) ∧ InSequence (fullReports results)) ∧
    ∀ before result after,
      ran.2.world.readsSince scene.world =
        before.map some ++ some result :: after →
      result.error = none → toSizeT result.res = 64 → InSequence (fullReports before) →
      ¬ Proper (fullReports before).length (result.buffer 64) →
      let count := (fullReports before).length
      after = [] ∧
      (∃ fault, headerFault (.ofNat count) (result.buffer 64) = some fault ∧
        ran.1 = .error (.throws fault)) ∧
      (channelIdOf (result.buffer 64) = 0x0101 → commandTagOf (result.buffer 64) = 0x05 →
        ran.1 = .error (.throws (.wrongSeqno (.ofNat count) (seqOf (result.buffer 64))))) ∧
      ran.2.self.mSeq = .ofNat count ∧
      ran.2.self.mOffset = scene.self.mOffset + 64 * count ∧
      ran.2.self.rn = scene.self.rn + (64 * count + 5 * (before.length - count)) := by
  intro ran
  obtain ⟨idle, room⟩ := reached.idle
  have free : scene.self.mIo.mDevLock ∉ scene.world.held := World.free_of_idle idle _
  by_cases small : apdu.payloadSize ≤ 255
  · obtain ⟨taken, more, received, -, passed, ending, outcome, self, reads⟩ :=
      exchange_course tb hid small live free room statusCode
    rw [show ran.1 = _ from outcome, show ran.2.self = _ from self,
      show ran.2.world.readsSince scene.world = _ from reads]
    constructor
    · intro answer returned
      refine ⟨taken, ?_, passed.inOrder.clean, passed.inSequence⟩
      cases ending with
      | done => simp
      | waits => simp at returned
      | fails => simp at returned
      | refuses => simp at returned
    · intro before result after consumed clean full inSequence improper count
      rcases split_reads consumed with ⟨rest, rfl⟩ | ⟨middle, rfl, last⟩
      · -- The report is one of those that the exchange passes.
        have proper := passed.inSequence (fullReports before).length (result.buffer 64) (by
          rw [fullReports_append, fullReports_full full,
            List.getElem?_append_right (Nat.le_refl _), Nat.sub_self, List.getElem?_cons_zero])
        exact absurd proper improper
      · obtain ⟨stops, rfl, head, rfl⟩ : received.calls ≠ taken.length ∧ middle = [] ∧
            more.head? = some result ∧ after = [] := by
          split at last
          · simp at last
          next stops =>
            rcases middle with _ | ⟨other, middle⟩
            · rw [List.map_nil, List.nil_append, List.cons.injEq] at last
              exact ⟨stops, rfl, last.1, last.2.symm⟩
            · simp at last
        obtain ⟨rest, rfl⟩ := List.head?_eq_some_iff.mp head
        obtain ⟨_, seq, offset, counted⟩ :=
          absorbAll_counters passed.inOrder (rfl : scene.self.restarted.mSeq = 0) blank
        have same : count = (fullReports taken).length :=
          congrArg (fun reads => (fullReports reads).length) (List.append_nil taken)
        rw [List.append_nil, same, ← (credited_eq taken).1]
        rw [Nat.zero_add] at seq
        cases ending with
        | done => exact absurd rfl stops
        | fails _ failed => exact absurd clean failed
        | @refuses _ _ fault _ _ _ bad =>
            refine ⟨rfl, ⟨fault, bad, rfl⟩, ?_, seq, offset, counted⟩
            intro channel tag
            rw [headerFault_of_seq bad channel tag]
  · have none : ran = (.error (.throws .payloadTooLarge), scene) :=
      exchange_run_of_large tb hid (by omega) statusCode scene
    rw [none]
    constructor
    · intro answer returned
      simp at returned
    · intro before result after consumed
      simp [World.readsSince, readResults] at consumed

/-- The first report of a long response. -/
def firstOfTwo : ReadResult := .ofReport (inputReport longResponse 0)

/-- A report that comes twice. -/
theorem only_reports_in_sequence_of_repeated :
    ((exchange Toolbox.reference Script.device NanosWallet.getAppVersionApdu (some 0)).run
      ⟨fresh Toolbox.reference .connected, (Script.ofReads
        [firstOfTwo, firstOfTwo]).world⟩).1 = .error (.throws (.wrongSeqno 1 0)) := by
  have start : Reached Toolbox.reference Script.device
      ⟨fresh Toolbox.reference .connected, (Script.ofReads [firstOfTwo, firstOfTwo]).world⟩ :=
    .fresh .connected rfl
  have one : fullReports [firstOfTwo] = [inputReport longResponse 0] := by
    decide +kernel
  have inSequence : InSequence (fullReports [firstOfTwo]) := by
    rw [one, inSequence_iff (by decide)]
    exact ⟨headerFault_inputReport longResponse 0, trivial⟩
  have improper : ¬ Proper (fullReports [firstOfTwo]).length (firstOfTwo.buffer 64) := by
    decide +kernel
  have thrown := (only_reports_in_sequence start rfl NanosWallet.getAppVersionApdu (some 0)).2
    [firstOfTwo] firstOfTwo [] (by decide +kernel) rfl (by decide) inSequence improper
  have channel : channelIdOf (firstOfTwo.buffer 64) = 0x0101 := by
    decide +kernel
  have tag : commandTagOf (firstOfTwo.buffer 64) = 0x05 := by
    decide +kernel
  have seq : seqOf (firstOfTwo.buffer 64) = 0 := by
    decide +kernel
  have wrong := thrown.2.2.1 channel tag
  rw [seq, one] at wrong
  exact wrong

end FrameIoApdu

end MhWallet
