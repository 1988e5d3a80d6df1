import MhWallet.Concurrency.Routines
import MhWallet.Effect.Within

/-!
Contract: the counters of the framer whenever `frame_io::read` is entered.

`m_seq` counts the reports that were accepted since `reset`, and each of them
adds 64 to `m_offset` and at least 64 to `rn`.  A read that fails adds to `rn`
alone, and a call that throws leaves all three as they are until the next
`reset`.

Owns: that link, the bound that the declared length puts on the three, and the
runs of exchanges on one framer.

Does not own: where the reports are stored.
-/

namespace MhWallet

open MhWallet.Bytes MhWallet.Effect MhWallet.Method

/-! ## Steps that are not reads -/

namespace Routine

variable {O σ α β : Type} {scene entry : Scene O σ}

theorem entries_plain (action : Method O σ α) (scene : Scene O σ) :
    (plain action).entries .read scene = [] :=
  Thread.entries_atomic action

theorem mem_entries_plain_bind {action : Method O σ α} {next : α → Routine O σ β} :
    entry ∈ (plain action >>= next).entries .read scene ↔
      ∃ value reached, action.run scene = (.ok value, reached) ∧
        entry ∈ (next value).entries .read reached := by
  rw [Thread.mem_entries_bind, entries_plain]
  simp

end Routine

/-! ## One call of `frame_io::read` -/

/-- A body under a lock returns what the call returns. -/
theorem Method.of_run_withLock_ok {O σ α : Type} {mutex : Mutex} {body : Method O σ α}
    {scene reached : Scene O σ} {value : α}
    (ran : (withLock mutex body).run scene = (.ok value, reached)) :
    ∃ between, body.run ⟨scene.self, scene.world.acquire mutex⟩ = (.ok value, between) := by
  by_cases held : mutex ∈ scene.world.held
  · have blocked := run_withLock_of_held held scene.self body
    cases (Prod.mk.inj (blocked.symm.trans ran)).1
  · have locked := (run_withLock_eq held scene.self body).symm.trans ran
    exact ⟨_, Action.run_of_outcome (Prod.mk.inj locked).1⟩

namespace FrameIo

variable {σ : Type} (tb : Toolbox) (hid : Hidapi σ) {scene reached : Scene FrameIo σ}

/-- A call of `frame_io::read` reads in the scene in which it is entered. -/
theorem readRoutine_entries (out : Bytes) (scene entry : Scene FrameIo σ) :
    entry ∈ (readRoutine tb hid out).entries .read scene ↔ entry = scene := by
  rw [readRoutine, Routine.mem_entries_plain_bind]
  constructor
  · rintro ⟨_, _, same, entered⟩
    obtain ⟨_, rfl⟩ := Prod.mk.inj same
    rcases Thread.mem_entries_bind.mp entered with here | ⟨_, _, _, entered⟩
    · exact List.mem_singleton.mp here
    · obtain ⟨_, _, _, later⟩ := Routine.mem_entries_plain_bind.mp entered
      split at later
      · exact absurd later List.not_mem_nil
      · rw [Routine.entries_plain] at later
        exact absurd later List.not_mem_nil
  · rintro rfl
    exact ⟨_, _, rfl, Thread.mem_entries_bind.mpr (.inl (List.mem_singleton_self _))⟩

theorem writeLoopRoutine_entries (rounds : Nat) (buffer chunk : Bytes) (cseq : UInt16)
    (scene entry : Scene FrameIo σ) :
    entry ∉ (writeLoopRoutine tb hid rounds buffer chunk cseq).entries .read scene := by
  induction rounds generalizing buffer chunk cseq scene with
  | zero =>
      rw [writeLoopRoutine]
      split
      · exact List.not_mem_nil
      · rw [Routine.entries_plain]
        exact List.not_mem_nil
  | succ rounds inductionHypothesis =>
      rw [writeLoopRoutine]
      split
      · exact List.not_mem_nil
      · intro entered
        obtain ⟨_, _, _, entered⟩ := Routine.mem_entries_plain_bind.mp entered
        rcases Thread.mem_entries_bind.mp entered with here | ⟨_, _, _, later⟩
        · exact absurd here List.not_mem_nil
        · exact inductionHypothesis _ _ _ _ later

theorem writeRoutine_entries (apdu : Apdu) (scene entry : Scene FrameIo σ) :
    entry ∉ (writeRoutine tb hid apdu).entries .read scene := by
  rw [writeRoutine, Thread.mem_entries_bind]
  rintro (earlier | ⟨_, _, _, later⟩)
  · exact writeLoopRoutine_entries tb hid _ _ _ _ scene entry earlier
  · exact absurd later List.not_mem_nil

/-- The counters of a framer are as they were. -/
def SameCounters (before after : Scene FrameIo σ) : Prop :=
  after.self.mSeq = before.self.mSeq ∧ after.self.mOffset = before.self.mOffset

theorem sameCounters_walk : Action.Walk (SameCounters (σ := σ)) where
  stay _ := ⟨rfl, rfl⟩
  go first second := ⟨second.1.trans first.1, second.2.trans first.2⟩

/-- Writing a request leaves the counters alone. -/
theorem write_counters (apdu : Apdu) :
    Action.Within (fun _ => True) SameCounters (write tb hid apdu) := by
  have loop : ∀ rounds buffer chunk cseq, Action.Within (fun _ => True) SameCounters
      (writeLoop tb hid rounds buffer chunk cseq) := by
    intro rounds
    induction rounds with
    | zero =>
        intro buffer chunk cseq
        rw [writeLoop]
        split
        · exact .pure sameCounters_walk ()
        · exact .stop sameCounters_walk _
    | succ rounds inductionHypothesis =>
        intro buffer chunk cseq
        rw [writeLoop]
        split
        · exact .pure sameCounters_walk ()
        · refine .bind sameCounters_walk (.ofOption sameCounters_walk _ _) fun toUsb => ?_
          refine .bind sameCounters_walk (fun scene _ => ⟨rfl, rfl⟩) fun _ => ?_
          exact inductionHypothesis _ _ _
  exact .bind sameCounters_walk (loop _ _ _ _) fun _ => .pure sameCounters_walk _

/-- The device stores 64 bytes whenever it returns 64. -/
theorem deviceRead_room {dev after : Scene HidppDevice σ} {out buffer : Bytes} {n : Nat}
    (ran : (HidppDevice.read tb hid out 64).run dev = (.ok (n, buffer), after)) (full : n = 64) :
    64 ≤ buffer.length := by
  obtain ⟨_, _, _, ran⟩ := Action.of_run_bind_ok ran
  obtain ⟨_, ran⟩ := of_run_withLock_ok ran
  obtain ⟨result, _, _, ran⟩ := Action.of_run_bind_ok ran
  obtain ⟨failure, _, _, ran⟩ := Action.of_run_bind_ok ran
  cases failure with
  | none =>
      obtain ⟨same, _⟩ := Prod.mk.inj ran
      obtain ⟨_, stored⟩ := Prod.mk.inj (Except.ok.inj same)
      rw [← stored, Toolbox.write_eq, overwrite_length, ReadResult.buffer_length]
      omega
  | some message =>
      obtain ⟨_, _, _, ran⟩ := Action.of_run_bind_ok ran
      obtain ⟨same, _⟩ := Prod.mk.inj ran
      obtain ⟨zero, _⟩ := Prod.mk.inj (Except.ok.inj same)
      omega

/-- A report that is accepted moves every counter. -/
theorem accept_counters {out stored : Bytes} {n : Nat}
    (ran : (accept tb out).run scene = (.ok (n, stored), reached))
    (room : 64 ≤ scene.self.mBuffer.length) :
    59 ≤ n ∧ reached.self.mSeq = scene.self.mSeq + 1 ∧
      reached.self.mOffset = scene.self.mOffset + 64 := by
  rw [accept, Action.run_bind_ok (run_self scene)] at ran
  obtain ⟨channelId, _, parsed, ran⟩ := Action.of_run_bind_ok ran
  obtain ⟨_, rfl⟩ := Action.of_run_ofOption_ok parsed
  obtain ⟨commandTag, _, parsed, ran⟩ := Action.of_run_bind_ok ran
  obtain ⟨_, rfl⟩ := Action.of_run_ofOption_ok parsed
  obtain ⟨cseq, _, parsed, ran⟩ := Action.of_run_bind_ok ran
  obtain ⟨_, rfl⟩ := Action.of_run_ofOption_ok parsed
  split at ran
  · simp at ran
  · split at ran
    · simp at ran
    · split at ran
      · simp at ran
      · obtain ⟨content, _, parsed, ran⟩ := Action.of_run_bind_ok ran
        obtain ⟨sliced, rfl⟩ := Action.of_run_ofOption_ok parsed
        rw [Toolbox.takeRangeFrom_eq] at sliced
        have length := (length_of_slice? sliced).1
        obtain ⟨_, between, moved, ran⟩ := Action.of_run_bind_ok ran
        obtain ⟨same, rfl⟩ := Prod.mk.inj ran
        obtain rfl := (Prod.mk.inj moved).2
        have count := congrArg Prod.fst (Except.ok.inj same)
        simp only [Toolbox.write_eq] at count
        refine ⟨?_, rfl, rfl⟩
        have many : content.length = n := by
          split at count <;> exact count
        omega

/-- What a call of `frame_io::read` that returns has done to the counters. -/
theorem read_counters {out stored : Bytes} {n : Nat}
    (ran : (read tb hid out).run scene = (.ok (n, stored), reached)) :
    (n = 0 ∧ SameCounters scene reached) ∨
      (59 ≤ n ∧ reached.self.mSeq = scene.self.mSeq + 1 ∧
        reached.self.mOffset = scene.self.mOffset + 64) := by
  rw [read, Action.run_bind_ok (run_self scene)] at ran
  obtain ⟨⟨count, buffer⟩, between, got, ran⟩ := Action.of_run_bind_ok ran
  obtain ⟨device, rfl⟩ := Prod.mk.inj got
  rw [Action.run_bind_ok (run_updateSelf ..)] at ran
  split at ran
  next short =>
    obtain ⟨same, rfl⟩ := Prod.mk.inj ran
    exact .inl ⟨(Prod.mk.inj (Except.ok.inj same)).1.symm, rfl, rfl⟩
  next full =>
    have room := deviceRead_room tb hid (Action.run_of_outcome device) (not_not.mp full)
    have accepted := accept_counters tb ran room
    exact .inr accepted

end FrameIo

/-! ## The loop of an exchange -/

namespace FrameIoApdu

variable {σ : Type} (tb : Toolbox) (hid : Hidapi σ) {scene reached : Scene FrameIoApdu σ}
  {framer : FrameIoApdu}

/-- Every report that was counted has moved both of the other counters. -/
structure Paced (framer : FrameIoApdu) : Prop where
  offset : 64 * framer.mSeq.toNat ≤ framer.mOffset
  received : 64 * framer.mSeq.toNat ≤ framer.rn

/-- The counters are in range: the next report is counted without a wrap, and its
place is found without an underflow. -/
structure InRange (framer : FrameIoApdu) : Prop extends Paced framer where
  seq : framer.mSeq.toNat ≤ 1023

/-- After `reset` the counters are in range. -/
theorem InRange.of_reset (restarted : framer.mSeq = 0) : InRange framer where
  offset := by simp [restarted]
  received := by simp [restarted]
  seq := by simp [restarted]

/-- The loop test bounds `rn`, and with it the count of the reports. -/
theorem Paced.inRange (paced : Paced framer) {respLen : UInt16}
    (looping : framer.rn < respLen.toNat) : InRange framer := by
  have narrow := respLen.toNat_lt
  have received := paced.received
  exact ⟨paced, by omega⟩

theorem InRange.seq_succ (inRange : InRange framer) :
    (framer.mSeq + 1).toNat = framer.mSeq.toNat + 1 := by
  have small := inRange.seq
  rw [UInt16.toNat_add]
  exact Nat.mod_eq_of_lt (by simp; omega)

theorem InRange.header (inRange : InRange framer) (started : framer.mSeq ≠ 0) :
    5 ≤ framer.mOffset := by
  have offset := inRange.offset
  have positive : framer.mSeq.toNat ≠ 0 := fun zero => started (UInt16.toNat_inj.mp zero)
  omega

/-- What `rn += read(buffer) + 5` has done to the counters. -/
theorem readMore_counters {buffer stored : Bytes}
    (ran : (readMore tb hid buffer).run scene = (.ok stored, reached)) :
    (reached.self.mSeq = scene.self.mSeq ∧ reached.self.mOffset = scene.self.mOffset ∧
        reached.self.rn = scene.self.rn + 5) ∨
      (reached.self.mSeq = scene.self.mSeq + 1 ∧
        reached.self.mOffset = scene.self.mOffset + 64 ∧
        scene.self.rn + 64 ≤ reached.self.rn) := by
  obtain ⟨⟨n, data⟩, between, got, ran⟩ := Action.of_run_bind_ok ran
  obtain ⟨base, rfl⟩ := Prod.mk.inj got
  obtain ⟨_, counted, moved, ran⟩ := Action.of_run_bind_ok ran
  obtain rfl := (Prod.mk.inj ran).2
  obtain rfl := (Prod.mk.inj moved).2
  rcases FrameIo.read_counters tb hid (Action.run_of_outcome base) with
    ⟨zero, seq, place⟩ | ⟨many, seq, place⟩
  · refine .inl ⟨seq, place, ?_⟩
    rw [zero]
    rfl
  · exact .inr ⟨seq, place, Nat.add_le_add_left (Nat.add_le_add_right many 5) _⟩

/-- A read keeps the counters in step. -/
theorem readMore_paced {buffer stored : Bytes} (inRange : InRange scene.self)
    (ran : (readMore tb hid buffer).run scene = (.ok stored, reached)) :
    Paced reached.self := by
  have next := inRange.seq_succ
  have offset := inRange.offset
  have received := inRange.received
  rcases readMore_counters tb hid ran with ⟨seq, place, count⟩ | ⟨seq, place, count⟩
  · constructor <;> rw [seq] <;> omega
  · constructor <;> rw [seq, next] <;> omega

theorem readMoreRoutine_entries (buffer : Bytes) (scene entry : Scene FrameIoApdu σ) :
    entry ∈ (readMoreRoutine tb hid buffer).entries .read scene ↔ entry = scene := by
  have inner : entry ∈ (Routine.onMember frameIo (FrameIo.readRoutine tb hid buffer)).entries
      .read scene ↔ entry = scene := by
    rw [Routine.onMember, Thread.mem_entries_focus]
    simp only [FrameIo.readRoutine_entries]
    rw [exists_eq_left, (sceneLens frameIo).put_get, eq_comm]
  rw [readMoreRoutine, Thread.mem_entries_bind, inner, or_iff_left_iff_imp]
  rintro ⟨_, _, _, later⟩
  obtain ⟨_, _, _, later⟩ := Routine.mem_entries_plain_bind.mp later
  exact absurd later List.not_mem_nil

/-- The loop reads with its counters in range. -/
theorem readRestRoutine_inRange {respLen : UInt16} {rounds : Nat} {buffer : Bytes}
    {entry : Scene FrameIoApdu σ} (paced : Paced scene.self)
    (entered : entry ∈ (readRestRoutine tb hid respLen rounds buffer).entries .read scene) :
    InRange entry.self := by
  induction rounds generalizing buffer scene with
  | zero =>
      rw [readRestRoutine, Routine.mem_entries_plain_bind] at entered
      obtain ⟨_, _, _, later⟩ := entered
      split at later
      · rw [Routine.entries_plain] at later
        exact absurd later List.not_mem_nil
      · exact absurd later List.not_mem_nil
  | succ rounds inductionHypothesis =>
      rw [readRestRoutine, Routine.mem_entries_plain_bind] at entered
      obtain ⟨framer, _, same, later⟩ := entered
      obtain ⟨started, rfl⟩ := Prod.mk.inj same
      obtain rfl : scene.self = framer := Except.ok.inj started
      split at later
      next looping =>
        have inRange := paced.inRange looping
        rcases Thread.mem_entries_bind.mp later with here | ⟨_, _, ran, further⟩
        · obtain rfl := (readMoreRoutine_entries tb hid buffer scene entry).mp here
          exact inRange
        · rw [readMoreRoutine_alone] at ran
          exact inductionHypothesis (readMore_paced tb hid inRange ran) further
      next done => exact absurd later List.not_mem_nil

/-- The request is written with the sequence number that `reset` left. -/
theorem written_mSeq {apdu : Apdu} {n : Nat} (restarted : scene.self.mSeq = 0)
    (wrote : (Routine.onMember frameIo (FrameIo.writeRoutine tb hid apdu)).alone.run scene =
      (.ok n, reached)) : reached.self.mSeq = 0 := by
  rw [Routine.alone_onMember, FrameIo.writeRoutine_alone] at wrote
  obtain ⟨_, rfl⟩ := Prod.mk.inj wrote
  rw [← restarted]
  refine (FrameIo.write_counters tb hid apdu ((sceneLens frameIo).get scene) ?_).1
  unfold Action.Counts
  split <;> trivial

/-- Every exchange reads with its counters in range, whatever they were before. -/
theorem exchangeRoutine_inRange {apdu : Apdu} {statusCode : Option UInt16}
    {entry : Scene FrameIoApdu σ}
    (entered : entry ∈ (exchangeRoutine tb hid apdu statusCode).entries .read scene) :
    InRange entry.self := by
  rw [exchangeRoutine] at entered
  split at entered
  · rw [Routine.entries_plain] at entered
    exact absurd entered List.not_mem_nil
  · obtain ⟨_, restarted, reset, entered⟩ := Routine.mem_entries_plain_bind.mp entered
    obtain rfl := (Prod.mk.inj reset).2
    rcases Thread.mem_entries_bind.mp entered with writing | ⟨_, written, wrote, entered⟩
    · obtain ⟨part, inside, _⟩ := Thread.mem_entries_focus.mp writing
      exact absurd inside (FrameIo.writeRoutine_entries tb hid apdu _ part)
    · have first : InRange written.self := .of_reset (written_mSeq tb hid rfl wrote)
      rcases Thread.mem_entries_bind.mp entered with here | ⟨buffer, received, got, entered⟩
      · obtain rfl := (readMoreRoutine_entries tb hid _ written entry).mp here
        exact first
      · rw [readMoreRoutine_alone] at got
        have paced := readMore_paced tb hid first got
        obtain ⟨declared, _, parsed, entered⟩ := Routine.mem_entries_plain_bind.mp entered
        obtain ⟨_, rfl⟩ := Action.of_run_ofOption_ok parsed
        rcases Thread.mem_entries_bind.mp entered with looping | ⟨_, _, _, later⟩
        · exact readRestRoutine_inRange tb hid paced looping
        · rw [Routine.entries_plain] at later
          exact absurd later List.not_mem_nil

end FrameIoApdu

/-! ## The loops have enough rounds -/

namespace HidppDevice

variable {σ : Type} (tb : Toolbox) (hid : Hidapi σ)

theorem write_finishes (data : Bytes) : Action.Avoids .unfinished (write hid data) := by
  rintro ⟨dev, world⟩
  by_cases free : dev.mDevLock ∉ world.held
  · rcases live : dev.mDev with _ | handle
    · simp [write_run_of_null hid live free]
    · simp [write_run hid live free]
  · rw [write, Action.run_bind, run_self]
    simp [run_withLock_of_held (not_not.mp free)]

theorem read_finishes (out : Bytes) (readLen : Nat) :
    Action.Avoids .unfinished (read tb hid out readLen) := by
  rintro ⟨dev, world⟩
  by_cases free : dev.mDevLock ∉ world.held
  · rcases live : dev.mDev with _ | handle
    · simp [read_eq, checkedRead_run_of_null hid live free]
    · rw [read_run tb hid live free]
      rcases hid.read handle readLen world.env with ⟨_ | result, env⟩
      · simp
      · rcases failure : result.error with _ | message <;> simp [failure]
  · rw [read, Action.run_bind, run_self]
    simp [run_withLock_of_held (not_not.mp free)]

end HidppDevice

theorem Method.onMember_finishes {O P σ α : Type} {lens : Lens O P} {inner : Method P σ α}
    (finishes : Action.Avoids .unfinished inner) :
    Action.Avoids .unfinished (Method.onMember lens inner) :=
  fun scene => finishes ((sceneLens lens).get scene)

namespace FrameIo

variable {σ : Type} (tb : Toolbox) (hid : Hidapi σ)

theorem accept_finishes (out : Bytes) :
    Action.Avoids .unfinished (accept tb out : Method FrameIo σ _) := by
  apply Action.Avoids.bind (fun scene => by simp)
  intro framer
  apply Action.Avoids.bind (.ofOption (by decide) _)
  intro channelId
  apply Action.Avoids.bind (.ofOption (by decide) _)
  intro commandTag
  apply Action.Avoids.bind (.ofOption (by decide) _)
  intro cseq
  split
  · exact .stop (by simp)
  · split
    · exact .stop (by simp)
    · split
      · exact .stop (by simp)
      · apply Action.Avoids.bind (.ofOption (by decide) _)
        intro content
        exact .bind (.update _) fun _ => .pure _

theorem read_finishes (out : Bytes) : Action.Avoids .unfinished (read tb hid out) := by
  apply Action.Avoids.bind (fun scene => by simp)
  intro framer
  apply Action.Avoids.bind (onMember_finishes (HidppDevice.read_finishes tb hid _ _))
  rintro ⟨n, buffer⟩
  apply Action.Avoids.bind (.update _)
  intro _
  split
  · exact .pure _
  · exact accept_finishes tb out

/-- Every round takes bytes from the buffer. -/
theorem writeLoop_finishes {rounds : Nat} {buffer chunk : Bytes} (cseq : UInt16)
    (enough : buffer.length ≤ rounds) (room : 5 < chunk.length) :
    Action.Avoids .unfinished (writeLoop tb hid rounds buffer chunk cseq) := by
  induction rounds generalizing buffer chunk cseq with
  | zero =>
      rw [writeLoop, if_pos (List.eq_nil_of_length_eq_zero (Nat.le_zero.mp enough))]
      exact .pure _
  | succ rounds inductionHypothesis =>
      rw [writeLoop]
      split
      · exact .pure _
      next more =>
        have some : 0 < buffer.length := List.length_pos_iff.mpr more
        simp only [Toolbox.write_eq, Toolbox.popFrontTo_eq, Toolbox.uint16Bytes_eq]
        apply Action.Avoids.bind (.ofOption (by decide) _)
        intro toUsb
        apply Action.Avoids.bind (onMember_finishes (HidppDevice.write_finishes hid toUsb))
        intro _
        apply inductionHypothesis
        · rw [List.length_drop, overwrite_length, bigEndian_length]
          omega
        · rw [overwrite_length, overwrite_length]
          omega

theorem write_finishes (apdu : Apdu) : Action.Avoids .unfinished (write tb hid apdu) := by
  refine .bind (writeLoop_finishes tb hid _ (Nat.le_refl _) ?_) fun _ => .pure _
  simp only [Toolbox.write_eq, Toolbox.bytesData_eq, overwrite_length, List.length_replicate]
  omega

end FrameIo

namespace FrameIoApdu

variable {σ : Type} (tb : Toolbox) (hid : Hidapi σ) {scene reached : Scene FrameIoApdu σ}

theorem readMore_finishes (buffer : Bytes) :
    Action.Avoids .unfinished (readMore tb hid buffer) := by
  apply Action.Avoids.bind (onMember_finishes (FrameIo.read_finishes tb hid buffer))
  rintro ⟨n, stored⟩
  exact .bind (.update _) fun _ => .pure _

/-- Every round brings `rn` forward. -/
theorem readRest_finishes {respLen : UInt16} {rounds : Nat} {buffer : Bytes}
    (enough : respLen.toNat ≤ scene.self.rn + rounds) :
    ((readRest tb hid respLen rounds buffer).run scene).1 ≠ .error .unfinished := by
  induction rounds generalizing buffer scene with
  | zero =>
      rw [readRest, Action.run_bind_ok (run_self scene)]
      simp [Nat.not_lt.mpr (show respLen.toNat ≤ scene.self.rn from enough)]
  | succ rounds inductionHypothesis =>
      rw [readRest, Action.run_bind_ok (run_self scene)]
      split
      · rcases ran : (readMore tb hid buffer).run scene with ⟨reason | stored, reached⟩
        · rw [Action.run_bind_error ran]
          have finishes := readMore_finishes tb hid buffer scene
          rw [ran] at finishes
          exact fun same => finishes (congrArg Except.error (Except.error.inj same))
        · rw [Action.run_bind_ok ran]
          apply inductionHypothesis
          rcases readMore_counters tb hid ran with ⟨_, _, count⟩ | ⟨_, _, count⟩ <;> omega
      · simp

theorem conclude_finishes (respLen : UInt16) (buffer : Bytes) (statusCode : Option UInt16) :
    Action.Avoids .unfinished
      (conclude tb respLen buffer statusCode : Method FrameIoApdu σ _) := by
  rintro ⟨framer, world⟩
  rw [conclude_run]
  exact decode_avoids (by simp) respLen buffer statusCode

/-- No exchange runs out of the rounds that its loops are given. -/
theorem exchange_finishes (apdu : Apdu) (statusCode : Option UInt16) :
    Action.Avoids .unfinished (exchange tb hid apdu statusCode) := by
  rw [exchange]
  split
  · exact .stop (by simp)
  · apply Action.Avoids.bind (onMember_finishes (.update _))
    intro _
    apply Action.Avoids.bind (onMember_finishes (FrameIo.write_finishes tb hid apdu))
    intro _
    apply Action.Avoids.bind (readMore_finishes tb hid _)
    intro buffer
    apply Action.Avoids.bind (.ofOption (by decide) _)
    intro declared
    refine .bind (fun scene => ?_) fun stored => conclude_finishes tb _ stored statusCode
    exact readRest_finishes tb hid (Nat.le_add_left _ _)

/-! ## Runs of exchanges -/

/-- Exchanges one after another on one framer, each after one that returned or
threw. -/
def exchanges : List (Apdu × Option UInt16) → Routine FrameIoApdu σ Unit
  | [] => return ()
  | (apdu, statusCode) :: calls =>
      (exchangeRoutine tb hid apdu statusCode).andThen fun outcome =>
        if Ended outcome then exchanges calls else .done (outcome.map fun _ => ())

theorem exchanges_inRange {calls : List (Apdu × Option UInt16)} {entry : Scene FrameIoApdu σ}
    (entered : entry ∈ (exchanges tb hid calls).entries .read scene) : InRange entry.self := by
  induction calls generalizing scene with
  | nil => exact absurd entered List.not_mem_nil
  | cons call calls inductionHypothesis =>
      rw [exchanges, Thread.entries_andThen] at entered
      rcases List.mem_append.mp entered with here | later
      · exact exchangeRoutine_inRange tb hid here
      · split at later
        · exact inductionHypothesis later
        · exact absurd later List.not_mem_nil

theorem exchanges_finish (calls : List (Apdu × Option UInt16)) (scene : Scene FrameIoApdu σ) :
    ((exchanges tb hid calls).alone.run scene).1 ≠ .error .unfinished := by
  induction calls generalizing scene with
  | nil => simp [exchanges]
  | cons call calls inductionHypothesis =>
      rw [exchanges, Thread.alone_andThen, exchangeRoutine_alone]
      have finishes := exchange_finishes tb hid call.1 call.2 scene
      rcases ran : (exchange tb hid call.1 call.2).run scene with ⟨reason | value, reached⟩
      · rw [ran] at finishes
        dsimp only
        split
        · exact inductionHypothesis reached
        · exact fun same => finishes (congrArg Except.error (Except.error.inj same))
      · exact inductionHypothesis reached

/-- In every run of exchanges, from any state of the framer, each call of
`frame_io::read` is entered with the counters in range: the 16 bits of `m_seq`
hold its successor, and `m_offset - 5` does not fall below zero.  The run ends
other than by the rounds that the loops are given. -/
theorem counters_in_range_at_reads (calls : List (Apdu × Option UInt16))
    (scene : Scene FrameIoApdu σ) :
    (∀ entry ∈ (exchanges tb hid calls).entries .read scene,
      InRange entry.self ∧ (entry.self.mSeq + 1).toNat = entry.self.mSeq.toNat + 1 ∧
        (entry.self.mSeq ≠ 0 → 5 ≤ entry.self.mOffset)) ∧
      ((exchanges tb hid calls).alone.run scene).1 ≠ .error .unfinished := by
  refine ⟨fun entry entered => ?_, exchanges_finish tb hid calls scene⟩
  have inRange := exchanges_inRange tb hid entered
  exact ⟨inRange, inRange.seq_succ, inRange.header⟩

end FrameIoApdu

end MhWallet
