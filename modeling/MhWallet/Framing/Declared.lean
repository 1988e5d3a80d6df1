import MhWallet.Framing.Ordering

/-!
Contract: what the length that a response declares does to the exchange.

`respLen` is the declared length and two more, in 16 bits.

Owns: the length and the status that a declared length calls for, and the
lengths for which an exchange of a new framer gives them.

Does not own: whether the buffer holds what the reports carried.
-/

namespace MhWallet

open MhWallet.Bytes MhWallet.Effect MhWallet.Method MhWallet.Framing

/-- The length that a report declares, in the two bytes behind its header. -/
def declaredLength (report : Bytes) : Nat := ofBigEndian ((report.drop 5).take 2)

theorem declaredLength_lt (report : Bytes) : declaredLength report < 65536 := by
  have fits : 256 ^ ((report.drop 5).take 2).length ≤ 256 ^ 2 :=
    Nat.pow_le_pow_right (by decide) (List.length_take_le 2 _)
  exact Nat.lt_of_lt_of_le (ofBigEndian_lt _) fits

/-- The total wraps around. -/
theorem messageSize_eq (report : Bytes) :
    messageSize (report.drop 5) = (declaredLength report + 2) % 65536 := by
  rw [messageSize, FrameIoApdu.declaredTotal, UInt16.toNat_add, UInt16.toNat_ofNat', declaredLength]
  have two : (2 : UInt16).toNat = 2 := rfl
  omega

namespace FrameIoApdu

/-- The buffer that these reads fill. -/
def reassembled (framer : FrameIoApdu) (reads : List (Option ReadResult)) : Bytes :=
  (framer.absorbAll blank (reads.filterMap id)).1

/-- What an exchange owes to a declared length: a response of two bytes less and
the status behind it, and an exception if it is less than two. -/
def HonoursLength (declared : Nat) (statusCode : Option UInt16) (buffer : Bytes)
    (outcome : Except Stop (Bytes × Option UInt16)) : Prop :=
  (∀ data status, outcome = .ok (data, status) → 2 ≤ declared ∧ data.length = declared - 2 ∧
    ∃ word, slice? buffer declared (declared + 2) = some word ∧
      status = statusCode.map fun _ => .ofNat (ofBigEndian word)) ∧
  (declared < 2 → ∃ exception, outcome = .error (.throws exception))

/-- The slices of a total that did not wrap. -/
theorem decode_honours {declared : Nat} {total : UInt16} (size : total.toNat = declared + 2)
    (buffer : Bytes) (statusCode : Option UInt16) :
    HonoursLength declared statusCode buffer (decode total buffer statusCode) := by
  have long : total ≥ 2 := by
    show (2 : UInt16).toNat ≤ total.toNat
    rw [size]
    exact Nat.le_add_left 2 declared
  have stop : total.toNat - 2 = declared := by omega
  unfold decode
  rw [if_pos long, stop, size]
  rcases response : slice? buffer 2 declared with _ | data
  · exact ⟨fun _ _ returned => absurd returned (by simp), fun _ => ⟨_, rfl⟩⟩
  · obtain ⟨length, ordered, -⟩ := length_of_slice? response
    rcases code : slice? buffer declared (declared + 2) with _ | word
    · exact ⟨fun _ _ returned => absurd returned (by simp), fun _ => ⟨_, rfl⟩⟩
    · constructor
      · intro given status returned
        simp only [Except.ok.injEq, Prod.mk.injEq] at returned
        obtain ⟨rfl, rfl⟩ := returned
        exact ⟨ordered, length, word, code, rfl⟩
      · intro short
        exact absurd ordered (Nat.not_le.mpr short)

/-- A total that wrapped gives a response of no bytes. -/
theorem decode_of_wrapped {total : UInt16} (short : total.toNat < 2) (buffer : Bytes)
    (statusCode : Option UInt16) :
    decode total buffer statusCode = .ok ([], statusCode.map fun _ => codeNoStatusResult) := by
  have few : ¬ total ≥ 2 := Nat.not_le.mpr short
  rw [decode, if_neg few]

variable {σ : Type} (tb : Toolbox) (hid : Hidapi σ)

/-- The exchange of a new framer honours the declared length exactly if that and
two more fit 16 bits. -/
theorem declared_length_honoured_iff {handle : Handle} {mIo : HidppDevice} {apdu : Apdu}
    {world : World σ} {first : ReadResult} (small : apdu.payloadSize ≤ 255)
    (live : mIo.mDev = some handle) (free : mIo.mDevLock ∉ world.held)
    (delivers : hid.Delivers handle [first]
      (world.afterWrites hid mIo.mDevLock handle (requestReports apdu)).env)
    (clean : first.error = none) (full : toSizeT first.res = 64)
    (proper : Proper 0 (first.buffer 64)) (statusCode : Option UInt16) :
    let ran := (exchange tb hid apdu statusCode).run ⟨fresh tb mIo, world⟩
    HonoursLength (declaredLength (first.buffer 64)) statusCode
        (reassembled (fresh tb mIo) (ran.2.world.readsSince world)) ran.1 ↔
      declaredLength (first.buffer 64) < 65534 := by
  intro ran
  have room : (fresh tb mIo).mBuffer.length ≤ 64 := by
    simp
  obtain ⟨taken, more, received, split, passed, ending, outcome, -, reads⟩ :=
    @exchange_course (fresh tb mIo) σ tb hid world handle apdu small live free room statusCode
  obtain ⟨later, awaited⟩ := delivers.answers (by decide : 1 ≤ 65536)
  have start : taken ++ more = first :: later := split.symm.trans awaited
  have accepted : headerFault (.ofNat 0) (first.buffer 64) = none :=
    (headerFault_eq_none_iff (by decide) _).mpr proper
  have size : ∀ rest, announced (first :: rest) =
      (declaredLength (first.buffer 64) + 2) % 65536 := by
    intro rest
    rw [announced, if_pos full, messageSize_eq]
  have enough : ∀ rest, (declaredLength (first.buffer 64) + 2) % 65536 ≤ 64 →
      ¬ (fresh tb mIo).restarted.Wants (first :: rest) := by
    intro rest short wants
    rcases wants with empty | less
    · exact absurd empty (by simp)
    · rw [size, credited_cons, credit, if_pos full] at less
      omega
  have bound := declaredLength_lt (first.buffer 64)
  rw [show ran.1 = _ from outcome, show ran.2.world.readsSince world = _ from reads]
  rcases taken with _ | ⟨head, rest⟩
  · -- The first report does not stop the exchange.
    rw [List.nil_append] at start
    subst start
    cases ending with
    | done done => exact absurd (.inl rfl) done
    | fails _ failed => exact absurd clean failed
    | refuses _ _ _ bad => exact absurd (accepted.symm.trans bad) (by simp)
  · rw [List.cons_append, List.cons.injEq] at start
    obtain ⟨rfl, rfl⟩ := start
    -- An exchange that wants a second read has a long response to wait for.
    have waiting : (fresh tb mIo).restarted.Wants (head :: rest) → ∀ buffer reason,
        (HonoursLength (declaredLength (head.buffer 64)) statusCode buffer (.error reason) ↔
          declaredLength (head.buffer 64) < 65534) := by
      intro wants buffer reason
      have long : ¬ (declaredLength (head.buffer 64) + 2) % 65536 ≤ 64 :=
        fun short => enough rest short wants
      constructor
      · intro _
        omega
      · intro _
        exact ⟨fun _ _ returned => absurd returned (by simp), fun short => by omega⟩
    cases ending with
    | waits wants => exact waiting wants _ _
    | fails wants => exact waiting wants _ _
    | refuses wants => exact waiting wants _ _
    | @done total _ _ announcement =>
        rw [size] at announcement
        have same : reassembled (fresh tb mIo) ((head :: rest).map some ++
            if (head :: rest).length = (head :: rest).length then [] else [more.head?]) =
            ((fresh tb mIo).restarted.absorbAll blank (head :: rest)).1 := by
          rw [if_pos rfl, List.append_nil, reassembled, List.filterMap_map]
          exact congrArg (fun reads => ((fresh tb mIo).absorbAll blank reads).1)
            List.filterMap_some
        rw [same]
        constructor
        · intro honours
          by_contra wrapped
          have short : total.toNat < 2 := by omega
          have returned := decode_of_wrapped short
            ((fresh tb mIo).restarted.absorbAll blank (head :: rest)).1 statusCode
          obtain ⟨_, length, _⟩ := honours.1 _ _ returned
          rw [List.length_nil] at length
          omega
        · intro fits
          exact decode_honours (by omega) _ statusCode

/-- A first report that declares this length. -/
def declaring (length : Nat) : ReadResult := .ofReport (inputReport (bigEndian 2 length) 0)

/-- The world of a device that sends such a report. -/
def declaringWorld (length : Nat) : World Script := (Script.ofReads [declaring length]).world

/-- The exchange of a new framer with that device. -/
def declaringRun (length : Nat) :
    Except Stop (Bytes × Option UInt16) × Scene FrameIoApdu Script :=
  (exchange Toolbox.reference Script.device NanosWallet.getAppVersionApdu (some 0)).run
    ⟨fresh Toolbox.reference .connected, declaringWorld length⟩

theorem declared_length_honoured_of_five :
    HonoursLength 5 (some 0) (reassembled (fresh Toolbox.reference .connected)
      ((declaringRun 5).2.world.readsSince (declaringWorld 5))) (declaringRun 5).1 := by
  have declared : declaredLength ((declaring 5).buffer 64) = 5 := by
    decide +kernel
  have honoured := @declared_length_honoured_iff Script Toolbox.reference Script.device 0
    .connected NanosWallet.getAppVersionApdu (declaringWorld 5) (declaring 5) (by decide) rfl
    List.not_mem_nil (Script.device_delivers 0 [declaring 5] _ rfl) rfl (by decide)
    (by decide +kernel) (some 0)
  rw [declared] at honoured
  unfold declaringRun
  exact honoured.mpr (by decide)

/-- The length 65534 makes the exchange return no data and no status. -/
theorem declared_length_wraps :
    ¬ ∀ (tb : Toolbox) (hid : Hidapi Script) (handle : Handle) (mIo : HidppDevice)
        (apdu : Apdu) (world : World Script) (first : ReadResult) (statusCode : Option UInt16),
      apdu.payloadSize ≤ 255 → mIo.mDev = some handle → mIo.mDevLock ∉ world.held →
      hid.Delivers handle [first]
        (world.afterWrites hid mIo.mDevLock handle (requestReports apdu)).env →
      first.error = none → toSizeT first.res = 64 → Proper 0 (first.buffer 64) →
      HonoursLength (declaredLength (first.buffer 64)) statusCode
        (reassembled (fresh tb mIo)
          (((exchange tb hid apdu statusCode).run ⟨fresh tb mIo, world⟩).2.world.readsSince
            world))
        ((exchange tb hid apdu statusCode).run ⟨fresh tb mIo, world⟩).1 := by
  intro honours
  have returned : (declaringRun 65534).1 = .ok ([], some codeNoStatusResult) := by
    decide +kernel
  unfold declaringRun at returned
  have declared : declaredLength ((declaring 65534).buffer 64) = 65534 := by
    decide +kernel
  obtain ⟨_, length, _⟩ := (honours Toolbox.reference Script.device 0 .connected
    NanosWallet.getAppVersionApdu (declaringWorld 65534) (declaring 65534) (some 0) (by decide)
    rfl List.not_mem_nil (Script.device_delivers 0 [declaring 65534] _ rfl) rfl (by decide)
    (by decide +kernel)).1 _ _ returned
  rw [declared] at length
  exact absurd length (by decide)

end FrameIoApdu

end MhWallet
