import MhWallet.Framing.Receipt

/-!
Contract: the reads that an exchange goes through, one after the other.

An exchange goes on as long as every read comes without an error and every full
report has the next number; a read of any other size counts 5 and stores
nothing.  It stops at the first read of another kind, or as soon as the count
reaches what the first report declares.

Owns: the reads that an exchange passes, the state after them, how it goes on
from there, and the reads that it leaves in the log.

Does not own: what a caller makes of the outcome.
-/

namespace MhWallet

open MhWallet.Bytes MhWallet.Effect MhWallet.Method MhWallet.Framing

/-- What `rn` gains by a read that does not stop the call. -/
def credit (result : ReadResult) : Nat := if toSizeT result.res = 64 then 64 else 5

def credited (results : List ReadResult) : Nat := (results.map credit).sum

theorem credited_cons (result : ReadResult) (results : List ReadResult) :
    credited (result :: results) = credit result + credited results :=
  List.sum_cons

/-- Full reports count 64, the rest 5. -/
theorem credited_eq (results : List ReadResult) :
    credited results = 64 * (fullReports results).length +
      5 * (results.length - (fullReports results).length) ∧
    (fullReports results).length ≤ results.length := by
  induction results with
  | nil => exact ⟨rfl, Nat.le_refl 0⟩
  | cons result results inductionHypothesis =>
      obtain ⟨count, fewer⟩ := inductionHypothesis
      rw [credited_cons, count, credit]
      by_cases full : toSizeT result.res = 64
      · rw [if_pos full, fullReports_full full, List.length_cons, List.length_cons]
        omega
      · rw [if_neg full, fullReports_short full, List.length_cons]
        omega

/-- Reads without an error, whose full reports count upwards from an index. -/
structure InOrder (index : Nat) (results : List ReadResult) : Prop where
  clean : ∀ result ∈ results, result.error = none
  numbered : Numbered index (fullReports results)

theorem InOrder.nil (index : Nat) : InOrder index [] where
  clean _ member := absurd member List.not_mem_nil
  numbered := trivial

/-- The reads in order that begin with this one. -/
theorem inOrder_cons_iff {index : Nat} {result : ReadResult} {results : List ReadResult} :
    InOrder index (result :: results) ↔ result.error = none ∧
      ((toSizeT result.res ≠ 64 ∧ InOrder index results) ∨
        (toSizeT result.res = 64 ∧ headerFault (.ofNat index) (result.buffer 64) = none ∧
          InOrder (index + 1) results)) := by
  constructor
  · intro ⟨clean, numbered⟩
    obtain ⟨first, later⟩ := List.forall_mem_cons.mp clean
    refine ⟨first, ?_⟩
    by_cases full : toSizeT result.res = 64
    · rw [fullReports_full full] at numbered
      exact .inr ⟨full, numbered.1, later, numbered.2⟩
    · rw [fullReports_short full] at numbered
      exact .inl ⟨full, later, numbered⟩
  · intro ⟨first, kind⟩
    rcases kind with ⟨short, later, numbered⟩ | ⟨full, good, later, numbered⟩
    · refine ⟨List.forall_mem_cons.mpr ⟨first, later⟩, ?_⟩
      rw [fullReports_short short]
      exact numbered
    · refine ⟨List.forall_mem_cons.mpr ⟨first, later⟩, ?_⟩
      rw [fullReports_full full]
      exact ⟨good, numbered⟩

/-- What stops a read loop that expects this number: no further read, a read
with an error, or a full report with a wrong header. -/
def Halts (index : Nat) : List ReadResult → Prop
  | [] => True
  | result :: _ => result.error ≠ none ∨
      toSizeT result.res = 64 ∧ headerFault (.ofNat index) (result.buffer 64) ≠ none

namespace FrameIoApdu

variable {framer : FrameIoApdu}

/-- The buffer and the framer after these reads. -/
def absorbAll (framer : FrameIoApdu) (buffer : Bytes) : List ReadResult → Bytes × FrameIoApdu
  | [] => (buffer, framer)
  | result :: results =>
      match framer.absorb buffer result with
      | (.ok buffer, framer) => absorbAll framer buffer results
      | (.error _, framer) => (buffer, framer)

/-- The step of a read that comes in order. -/
theorem absorb_inOrder {index : Nat} {result : ReadResult} {results : List ReadResult}
    (inOrder : InOrder index (result :: results)) (expected : framer.mSeq = .ofNat index)
    (buffer : Bytes) :
    ∃ reached next, framer.absorb buffer result = (.ok reached, next) ∧
      next.mIo = framer.mIo ∧ next.rn = framer.rn + credit result ∧
      ((toSizeT result.res ≠ 64 ∧ InOrder index results ∧ reached = buffer ∧
          next.mSeq = .ofNat index ∧ next.mOffset = framer.mOffset) ∨
        (toSizeT result.res = 64 ∧ InOrder (index + 1) results ∧
          reached = overwrite buffer framer.writePosition ((result.buffer 64).drop 5) ∧
          next.mSeq = .ofNat (index + 1) ∧ next.mOffset = framer.mOffset + 64)) := by
  obtain ⟨clean, kind⟩ := inOrder_cons_iff.mp inOrder
  unfold absorb credit
  rcases kind with ⟨short, later⟩ | ⟨full, good, later⟩
  · simp only [clean, short, ne_eq, not_false_eq_true, if_true, if_false]
    exact ⟨_, _, rfl, rfl, rfl, .inl ⟨trivial, later, rfl, expected, rfl⟩⟩
  · simp only [clean, full, ne_eq, not_true_eq_false, if_true, if_false, expected, good]
    refine ⟨_, _, rfl, rfl, rfl, .inr ⟨trivial, later, ?_, ?_, rfl⟩⟩
    · simp only [FrameIo.writePosition, expected]
    · show UInt16.ofNat index + 1 = _
      rw [UInt16.ofNat_add]
      rfl

/-- The counters after reads in order. -/
theorem absorbAll_counters {index : Nat} {results : List ReadResult} {framer : FrameIoApdu}
    (inOrder : InOrder index results) (expected : framer.mSeq = .ofNat index)
    (buffer : Bytes) :
    let after := (framer.absorbAll buffer results).2
    after.mIo = framer.mIo ∧
      after.mSeq = .ofNat (index + (fullReports results).length) ∧
      after.mOffset = framer.mOffset + 64 * (fullReports results).length ∧
      after.rn = framer.rn + credited results := by
  induction results generalizing framer index buffer with
  | nil => exact ⟨rfl, expected, rfl, rfl⟩
  | cons result results inductionHypothesis =>
      obtain ⟨reached, next, absorbed, device, count, kind⟩ :=
        absorb_inOrder inOrder expected buffer
      simp only [absorbAll, absorbed]
      rcases kind with ⟨short, later, -, seq, offset⟩ | ⟨full, later, -, seq, offset⟩
      · obtain ⟨laterDevice, laterSeq, laterOffset, laterCount⟩ :=
          inductionHypothesis later seq reached
        rw [fullReports_short short, credited_cons]
        exact ⟨laterDevice.trans device, laterSeq, by rw [laterOffset, offset],
          by rw [laterCount, count, Nat.add_assoc]⟩
      · obtain ⟨laterDevice, laterSeq, laterOffset, laterCount⟩ :=
          inductionHypothesis later seq reached
        rw [fullReports_full full, credited_cons, List.length_cons]
        refine ⟨laterDevice.trans device, ?_, ?_, by rw [laterCount, count, Nat.add_assoc]⟩
        · rw [laterSeq, Nat.add_right_comm, Nat.add_assoc]
        · rw [laterOffset, offset]
          omega

/-- The loop goes through reads in order as long as it wants more. -/
theorem gather_inOrder {respLen index : Nat} {results : List ReadResult}
    {framer : FrameIoApdu} (inOrder : InOrder index results)
    (expected : framer.mSeq = .ofNat index)
    (wanted : ∀ count, count < results.length →
      framer.rn + credited (results.take count) < respLen)
    (buffer : Bytes) (more : List ReadResult) :
    let after := framer.absorbAll buffer results
    gather respLen framer buffer (results ++ more) =
      { gather respLen after.2 after.1 more with
        calls := (gather respLen after.2 after.1 more).calls + results.length } := by
  induction results generalizing framer index buffer with
  | nil => rfl
  | cons result results inductionHypothesis =>
      obtain ⟨reached, next, absorbed, -, count, kind⟩ :=
        absorb_inOrder inOrder expected buffer
      have first : framer.rn < respLen := by
        have := wanted 0 (Nat.succ_pos _)
        rwa [List.take_zero] at this
      have later : ∀ count, count < results.length →
          next.rn + credited (results.take count) < respLen := by
        intro fewer within
        have := wanted (fewer + 1) (Nat.succ_lt_succ within)
        rw [List.take_succ_cons, credited_cons] at this
        omega
      simp only [List.cons_append, gather, if_pos first, absorbed, absorbAll]
      rcases kind with ⟨-, inOrder, -, seq, -⟩ | ⟨-, inOrder, -, seq, -⟩
      all_goals
        rw [inductionHypothesis inOrder seq later reached]
        rfl

/-- Every list of reads splits into those that the loop goes through and the
rest, at which it stops. -/
theorem exists_inOrder (respLen : Nat) (results : List ReadResult) (index count : Nat) :
    ∃ taken more, results = taken ++ more ∧ InOrder index taken ∧
      (∀ fewer, fewer < taken.length → count + credited (taken.take fewer) < respLen) ∧
      (respLen ≤ count + credited taken ∨
        count + credited taken < respLen ∧
          Halts (index + (fullReports taken).length) more) := by
  induction results generalizing index count with
  | nil =>
      refine ⟨[], [], rfl, .nil index, fun _ within => absurd within (Nat.not_lt_zero _), ?_⟩
      exact (Nat.lt_or_ge (count + credited []) respLen).elim
        (fun less => .inr ⟨less, trivial⟩) .inl
  | cons result results inductionHypothesis =>
      by_cases enough : respLen ≤ count
      · exact ⟨[], result :: results, rfl, .nil index,
          fun _ within => absurd within (Nat.not_lt_zero _), .inl enough⟩
      by_cases halts : Halts index (result :: results)
      · exact ⟨[], result :: results, rfl, .nil index,
          fun _ within => absurd within (Nat.not_lt_zero _),
          .inr ⟨Nat.lt_of_not_le enough, halts⟩⟩
      have clean : result.error = none := by
        by_contra failed
        exact halts (.inl failed)
      -- The read is passed; the rest is split for the number that comes next.
      have passed : ∀ next, (∀ taken, InOrder next taken → InOrder index (result :: taken)) →
          (∀ taken, index + (fullReports (result :: taken)).length =
            next + (fullReports taken).length) →
          ∃ taken more, result :: results = taken ++ more ∧ InOrder index taken ∧
            (∀ fewer, fewer < taken.length →
              count + credited (taken.take fewer) < respLen) ∧
            (respLen ≤ count + credited taken ∨
              count + credited taken < respLen ∧
                Halts (index + (fullReports taken).length) more) := by
        intro next inOrder number
        obtain ⟨taken, more, split, later, wanted, ending⟩ :=
          inductionHypothesis next (count + credit result)
        refine ⟨result :: taken, more, by rw [split, List.cons_append], inOrder taken later,
          ?_, ?_⟩
        · intro fewer within
          cases fewer with
          | zero => exact Nat.lt_of_not_le enough
          | succ fewer =>
              rw [List.take_succ_cons, credited_cons, ← Nat.add_assoc]
              exact wanted fewer (Nat.lt_of_succ_lt_succ within)
        · rw [credited_cons, ← Nat.add_assoc, number]
          exact ending
      by_cases full : toSizeT result.res = 64
      · have good : headerFault (.ofNat index) (result.buffer 64) = none := by
          by_contra bad
          exact halts (.inr ⟨full, bad⟩)
        refine passed (index + 1)
          (fun taken later => inOrder_cons_iff.mpr ⟨clean, .inr ⟨full, good, later⟩⟩)
          (fun taken => ?_)
        rw [fullReports_full full, List.length_cons]
        omega
      · refine passed index
          (fun taken later => inOrder_cons_iff.mpr ⟨clean, .inl ⟨full, later⟩⟩)
          (fun taken => ?_)
        rw [fullReports_short full]

/-! ## The reads of an exchange -/

/-- The total that the first of these reads makes the exchange wait for: without
a report in it the buffer declares a response of no bytes. -/
def announced : List ReadResult → Nat
  | [] => 0
  | first :: _ =>
      if toSizeT first.res = 64 then messageSize ((first.buffer 64).drop 5) else 2

/-- After these reads the exchange makes another. -/
def Wants (framer : FrameIoApdu) (taken : List ReadResult) : Prop :=
  taken = [] ∨ framer.rn + credited taken < announced taken

/-- The reads that an exchange goes through from the state of this framer. -/
structure Passed (framer : FrameIoApdu) (taken : List ReadResult) : Prop where
  inOrder : InOrder 0 taken
  wanted : ∀ count, count < taken.length → framer.Wants (taken.take count)

/-- The buffer of the response. -/
def blank : Bytes := List.replicate 255 0

theorem blank_length : blank.length = 255 := List.length_replicate

/-- The declared total after the first read. -/
theorem declaredTotal_announced {first : ReadResult} {rest : List ReadResult} {reached : Bytes}
    {next : FrameIoApdu} (restarted : framer.mSeq = 0)
    (absorbed : framer.absorb blank first = (.ok reached, next)) :
    (declaredTotal reached).toNat = announced (first :: rest) := by
  obtain ⟨_, ⟨short, rfl, _⟩ | ⟨full, _, stored, _⟩⟩ := absorb_ok absorbed
  · simp only [announced, if_neg short]
    rfl
  · simp only [announced, if_pos full, messageSize]
    rw [FrameIo.writePosition, if_pos restarted] at stored
    rw [declaredTotal_first (by rw [List.length_drop, ReadResult.buffer_length]) stored]

/-- An exchange goes through the reads that it passes. -/
theorem receive_passed {first : ReadResult} {rest : List ReadResult}
    (restarted : framer.mSeq = 0) (passed : framer.Passed (first :: rest))
    (statusCode : Option UInt16) (more : List ReadResult) :
    let after := framer.absorbAll blank (first :: rest)
    let total := declaredTotal (framer.absorbAll blank [first]).1
    let intake := gather (announced (first :: rest)) after.2 after.1 more
    total.toNat = announced (first :: rest) ∧
    framer.receive statusCode (first :: rest ++ more) =
      match intake.outcome with
      | .error reason => ⟨.error reason, intake.framer, intake.calls + rest.length + 1⟩
      | .ok buffer => ⟨decode total buffer statusCode,
          intake.framer.settled (decode total buffer statusCode),
          intake.calls + rest.length + 1⟩ := by
  intro after total intake
  obtain ⟨reached, next, absorbed, -, count, kind⟩ :=
    absorb_inOrder passed.inOrder restarted blank
  have declared : total = declaredTotal reached := by
    simp only [total, absorbAll, absorbed]
  have size : (declaredTotal reached).toNat = announced (first :: rest) :=
    declaredTotal_announced restarted absorbed
  refine ⟨by rw [declared, size], ?_⟩
  have wanted : ∀ fewer, fewer < rest.length →
      next.rn + credited (rest.take fewer) < announced (first :: rest) := by
    intro fewer within
    have wants := passed.wanted (fewer + 1) (Nat.succ_lt_succ within)
    rw [List.take_succ_cons] at wants
    rcases wants with empty | less
    · exact absurd empty (by simp)
    · rw [credited_cons] at less
      rw [count, Nat.add_assoc]
      exact less
  have gathered : gather (announced (first :: rest)) next reached (rest ++ more) =
      { intake with calls := intake.calls + rest.length } := by
    have same : after = next.absorbAll reached rest := by
      simp only [after, absorbAll, absorbed]
    simp only [intake, same]
    rcases kind with ⟨-, inOrder, -, seq, -⟩ | ⟨-, inOrder, -, seq, -⟩
    all_goals exact gather_inOrder inOrder seq wanted reached more
  have start : framer.absorb (List.replicate 255 0) first = (.ok reached, next) := absorbed
  rcases ended : intake.outcome with reason | buffer
  all_goals simp only [List.cons_append, receive, start, size, gathered, declared, ended]

/-- Where it wants no more, the exchange is decided by the buffer. -/
theorem receive_of_done {taken : List ReadResult} (restarted : framer.mSeq = 0)
    (passed : framer.Passed taken) (done : ¬ framer.Wants taken)
    (statusCode : Option UInt16) (more : List ReadResult) :
    ∃ total : UInt16, total.toNat = announced taken ∧
      framer.receive statusCode (taken ++ more) =
        ⟨decode total (framer.absorbAll blank taken).1 statusCode,
          (framer.absorbAll blank taken).2.settled
            (decode total (framer.absorbAll blank taken).1 statusCode), taken.length⟩ := by
  cases taken with
  | nil => exact absurd (.inl rfl) done
  | cons first rest =>
      obtain ⟨size, received⟩ := receive_passed restarted passed statusCode more
      have enough : announced (first :: rest) ≤
          (framer.absorbAll blank (first :: rest)).2.rn := by
        rw [(absorbAll_counters passed.inOrder restarted blank).2.2.2]
        exact Nat.le_of_not_lt fun less => done (.inr less)
      refine ⟨_, size, ?_⟩
      rw [received, gather_of_le enough]
      simp only [Nat.zero_add, List.length_cons]

/-- Where it wants more, the exchange is decided by the next read. -/
theorem receive_of_wants {taken : List ReadResult} (restarted : framer.mSeq = 0)
    (passed : framer.Passed taken) (wants : framer.Wants taken)
    (statusCode : Option UInt16) :
    (∃ stopped, framer.receive statusCode taken =
        ⟨.error .waits, stopped, taken.length + 1⟩) ∧
      ∀ result more reason next,
        (framer.absorbAll blank taken).2.absorb (framer.absorbAll blank taken).1 result =
          (.error reason, next) →
        framer.receive statusCode (taken ++ result :: more) =
          ⟨.error reason, next, taken.length + 1⟩ := by
  cases taken with
  | nil =>
      refine ⟨⟨_, rfl⟩, fun result more reason next stopped => ?_⟩
      have start : framer.absorb (List.replicate 255 0) result = (.error reason, next) :=
        stopped
      simp only [List.nil_append, receive, start, List.length_nil]
  | cons first rest =>
      have less : (framer.absorbAll blank (first :: rest)).2.rn <
          announced (first :: rest) := by
        rw [(absorbAll_counters passed.inOrder restarted blank).2.2.2]
        rcases wants with empty | less
        · exact absurd empty (by simp)
        · exact less
      constructor
      · have received := (receive_passed restarted passed statusCode []).2
        rw [List.append_nil] at received
        rw [received, gather, if_pos less]
        refine ⟨(framer.absorbAll blank (first :: rest)).2, ?_⟩
        simp only [List.length_cons, Nat.add_comm 1]
      · intro result more reason next stopped
        rw [(receive_passed restarted passed statusCode (result :: more)).2, gather,
          if_pos less, stopped]
        simp only [List.length_cons, Nat.add_comm 1]

/-- The reads that an exchange passes, of all that it may make. -/
theorem exists_passed (framer : FrameIoApdu) (results : List ReadResult) :
    ∃ taken more, results = taken ++ more ∧ framer.Passed taken ∧
      (¬ framer.Wants taken ∨
        framer.Wants taken ∧ Halts (fullReports taken).length more) := by
  by_cases halts : Halts 0 results
  · exact ⟨[], results, rfl, ⟨.nil 0, fun _ within => absurd within (Nat.not_lt_zero _)⟩,
      .inr ⟨.inl rfl, halts⟩⟩
  rcases results with _ | ⟨first, rest⟩
  · exact absurd trivial halts
  have clean : first.error = none := by
    by_contra failed
    exact halts (.inl failed)
  obtain ⟨index, number, start⟩ : ∃ index, (∀ taken, index + (fullReports taken).length =
      (fullReports (first :: taken)).length) ∧
      ∀ taken, InOrder index taken → InOrder 0 (first :: taken) := by
    by_cases full : toSizeT first.res = 64
    · have good : headerFault (.ofNat 0) (first.buffer 64) = none := by
        by_contra bad
        exact halts (.inr ⟨full, bad⟩)
      refine ⟨1, fun taken => ?_, fun taken later =>
        inOrder_cons_iff.mpr ⟨clean, .inr ⟨full, good, later⟩⟩⟩
      rw [fullReports_full full, List.length_cons, Nat.add_comm]
    · refine ⟨0, fun taken => ?_, fun taken later =>
        inOrder_cons_iff.mpr ⟨clean, .inl ⟨full, later⟩⟩⟩
      rw [fullReports_short full, Nat.zero_add]
  obtain ⟨taken, more, split, later, wanted, ending⟩ :=
    exists_inOrder (announced [first]) rest index (framer.rn + credit first)
  refine ⟨first :: taken, more, by rw [split, List.cons_append], ⟨start taken later, ?_⟩, ?_⟩
  · intro count within
    cases count with
    | zero => exact .inl rfl
    | succ count =>
        have less := wanted count (Nat.lt_of_succ_lt_succ within)
        rw [Nat.add_assoc, ← credited_cons] at less
        exact .inr less
  · rw [Nat.add_assoc, ← credited_cons] at ending
    rcases ending with enough | ⟨less, halts⟩
    · refine .inl fun wants => ?_
      rcases wants with empty | less
      · exact absurd empty (by simp)
      · exact Nat.not_lt.mpr enough less
    · rw [number] at halts
      exact .inr ⟨.inr less, halts⟩

/-- How an exchange ends after the reads that it passes, and after what is left
of the reads that it may make. -/
inductive Ending (framer : FrameIoApdu) (statusCode : Option UInt16) (taken : List ReadResult) :
    List ReadResult → Received → Prop
  | done {total : UInt16} {more : List ReadResult} (enough : ¬ framer.Wants taken)
      (size : total.toNat = announced taken) :
      Ending framer statusCode taken more
        ⟨decode total (framer.absorbAll blank taken).1 statusCode,
          (framer.absorbAll blank taken).2.settled
            (decode total (framer.absorbAll blank taken).1 statusCode), taken.length⟩
  | waits {stopped : FrameIoApdu} (wants : framer.Wants taken) :
      Ending framer statusCode taken [] ⟨.error .waits, stopped, taken.length + 1⟩
  | fails {result : ReadResult} {more : List ReadResult} {stopped : FrameIoApdu}
      (wants : framer.Wants taken) (failed : result.error ≠ none) :
      Ending framer statusCode taken (result :: more)
        ⟨.error (.deadlocks framer.mIo.mDevLock), stopped, taken.length + 1⟩
  | refuses {result : ReadResult} {more : List ReadResult} {fault : Exception}
      (wants : framer.Wants taken) (clean : result.error = none)
      (full : toSizeT result.res = 64)
      (bad : headerFault (.ofNat (fullReports taken).length) (result.buffer 64) = some fault) :
      Ending framer statusCode taken (result :: more)
        ⟨.error (.throws fault),
          { (framer.absorbAll blank taken).2 with mBuffer := result.buffer 64 },
          taken.length + 1⟩

/-- A read with an error deadlocks. -/
theorem absorb_of_error {result : ReadResult} (failed : result.error ≠ none) (buffer : Bytes) :
    framer.absorb buffer result = (.error (.deadlocks framer.mIo.mDevLock), framer) := by
  unfold absorb
  rcases error : result.error with _ | message
  · exact absurd error failed
  · rfl

/-- A full report with a wrong header is refused, and only the report buffer
has changed. -/
theorem absorb_of_fault {result : ReadResult} {fault : Exception} (clean : result.error = none)
    (full : toSizeT result.res = 64)
    (bad : headerFault framer.mSeq (result.buffer 64) = some fault) (buffer : Bytes) :
    framer.absorb buffer result =
      (.error (.throws fault), { framer with mBuffer := result.buffer 64 }) := by
  simp only [absorb, clean, full, ne_eq, not_true_eq_false, if_false, bad]

/-- The ways in which an exchange ends. -/
theorem receive_cases (restarted : framer.mSeq = 0) (statusCode : Option UInt16)
    (results : List ReadResult) :
    ∃ taken more, results = taken ++ more ∧ framer.Passed taken ∧
      framer.Ending statusCode taken more (framer.receive statusCode results) := by
  obtain ⟨taken, more, split, passed, ending⟩ := exists_passed framer results
  refine ⟨taken, more, split, passed, ?_⟩
  rw [split]
  rcases ending with done | ⟨wants, halts⟩
  · obtain ⟨total, size, received⟩ := receive_of_done restarted passed done statusCode more
    rw [received]
    exact .done done size
  · obtain ⟨⟨stopped, waits⟩, stops⟩ := receive_of_wants restarted passed wants statusCode
    obtain ⟨device, seq, -, -⟩ := absorbAll_counters passed.inOrder restarted blank
    rcases more with _ | ⟨result, more⟩
    · rw [List.append_nil, waits]
      exact .waits wants
    · by_cases failed : result.error = none
      · obtain ⟨full, bad⟩ := halts.resolve_left (not_not.mpr failed)
        obtain ⟨fault, raised⟩ := Option.ne_none_iff_exists'.mp bad
        rw [Nat.zero_add] at seq
        have expected := raised
        rw [← seq] at raised
        rw [stops result more _ _ (absorb_of_fault failed full raised _)]
        exact .refuses wants failed full expected
      · rw [stops result more _ _ (absorb_of_error failed _), device]
        exact .fails wants failed

/-- The reads of an exchange are those that it passes, and one at which it stops
unless it has enough. -/
theorem Ending.reads {statusCode : Option UInt16} {taken more : List ReadResult}
    {received : Received} (ending : framer.Ending statusCode taken more received) :
    ((taken ++ more).take received.calls).map some ++
        (if (taken ++ more).length < received.calls then [none] else []) =
      taken.map some ++ if received.calls = taken.length then [] else [more.head?] := by
  have next : ∀ result rest, (taken ++ result :: rest).take (taken.length + 1) =
      taken ++ [result] := by
    intro result rest
    rw [List.append_cons, List.take_left' (by simp)]
  cases ending with
  | done => simp
  | waits => simp [List.take_of_length_le]
  | fails => simp [next]
  | refuses => simp [next]

/-! ## The reads in the log -/

theorem gather_calls_le {respLen : Nat} {results : List ReadResult} {framer : FrameIoApdu}
    (buffer : Bytes) : (gather respLen framer buffer results).calls ≤ respLen - framer.rn := by
  induction results generalizing framer buffer with
  | nil =>
      unfold gather
      split
      · show 1 ≤ _
        omega
      · exact Nat.zero_le _
  | cons result results inductionHypothesis =>
      unfold gather
      split
      · rcases absorbed : framer.absorb buffer result with ⟨reason | reached, next⟩
        · show 1 ≤ _
          omega
        · have later := @inductionHypothesis next reached
          have progress := (absorb_progress absorbed).1
          show _ + 1 ≤ _
          omega
      · exact Nat.zero_le _

theorem receive_calls_le (statusCode : Option UInt16) (results : List ReadResult) :
    (framer.receive statusCode results).calls ≤ 65536 := by
  cases results with
  | nil => exact Nat.le_of_ble_eq_true rfl
  | cons first rest =>
      rw [receive]
      rcases framer.absorb (List.replicate 255 0) first with ⟨reason | buffer, next⟩
      · exact Nat.le_of_ble_eq_true rfl
      · have fewer := @gather_calls_le (declaredTotal buffer).toNat rest next buffer
        have size := (declaredTotal buffer).toNat_lt
        dsimp only
        split
        all_goals
          show _ + 1 ≤ _
          omega

variable {σ : Type} (tb : Toolbox) (hid : Hidapi σ) {world : World σ}

/-- What `hid_read` returns once a request is written, up to a call that waits;
no exchange reads more. -/
def deliveries (framer : FrameIoApdu) (world : World σ) (handle : Handle) (apdu : Apdu) :
    List ReadResult :=
  hid.answers handle 65536
    (world.afterWrites hid framer.mIo.mDevLock handle (requestReports apdu)).env

/-- The outcome of an exchange and its reads, however it ends. -/
theorem exchange_received {handle : Handle} {apdu : Apdu} (small : apdu.payloadSize ≤ 255)
    (live : framer.mIo.mDev = some handle) (free : framer.mIo.mDevLock ∉ world.held)
    (room : framer.mBuffer.length ≤ 64) (statusCode : Option UInt16) :
    let results := deliveries hid framer world handle apdu
    let received := framer.restarted.receive statusCode results
    let ran := (exchange tb hid apdu statusCode).run ⟨framer, world⟩
    ran.1 = received.outcome ∧ ran.2.self = received.framer ∧
      ran.2.world.readsSince world = (results.take received.calls).map some ++
        if results.length < received.calls then [none] else [] := by
  intro results received ran
  let sent := world.afterWrites hid framer.mIo.mDevLock handle (requestReports apdu)
  have spec : ran = (received.outcome, ⟨received.framer,
      sent.afterReads hid framer.mIo.mDevLock handle received.calls⟩) :=
    exchange_run tb hid small live free room (Nat.le_refl 65536)
  have bound : received.calls ≤ 65536 := receive_calls_le statusCode results
  have taken : hid.answers handle received.calls sent.env = results.take received.calls :=
    (Hidapi.answers_take hid handle bound sent.env).symm
  have logged : sent.log = world.log ++ (requestReports apdu).flatMap fun report =>
      [.lock framer.mIo.mDevLock, .hidWrite (some handle) report,
        .unlock framer.mIo.mDevLock] :=
    congrArg World.log (World.afterWrites_eq ..)
  rw [spec]
  refine ⟨rfl, rfl, ?_⟩
  have waits : readResults (if (results.take received.calls).length < received.calls then
      waitEvents framer.mIo.mDevLock handle else []) =
      if results.length < received.calls then [none] else [] := by
    rw [List.length_take]
    by_cases few : results.length < received.calls
    · rw [if_pos (by omega), if_pos few]
      rfl
    · rw [if_neg (by omega), if_neg few]
      rfl
  simp only [World.readsSince, World.afterReads_log, logged, taken, readTrace,
    List.append_assoc, List.drop_left, readResults_append, readResults_writes,
    readResults_readEvents, waits, List.nil_append]

/-- How an exchange ends and what it reads. -/
theorem exchange_course {handle : Handle} {apdu : Apdu} (small : apdu.payloadSize ≤ 255)
    (live : framer.mIo.mDev = some handle) (free : framer.mIo.mDevLock ∉ world.held)
    (room : framer.mBuffer.length ≤ 64) (statusCode : Option UInt16) :
    let ran := (exchange tb hid apdu statusCode).run ⟨framer, world⟩
    ∃ taken more received, deliveries hid framer world handle apdu = taken ++ more ∧
      framer.restarted.Passed taken ∧ framer.restarted.Ending statusCode taken more received ∧
      ran.1 = received.outcome ∧ ran.2.self = received.framer ∧
      ran.2.world.readsSince world =
        taken.map some ++ if received.calls = taken.length then [] else [more.head?] := by
  intro ran
  obtain ⟨outcome, self, reads⟩ := exchange_received tb hid small live free room statusCode
  obtain ⟨taken, more, split, passed, ending⟩ :=
    receive_cases (rfl : framer.restarted.mSeq = 0) statusCode
      (deliveries hid framer world handle apdu)
  have course := ending.reads
  rw [← split] at course
  exact ⟨taken, more, _, split, passed, ending, outcome, self, reads.trans course⟩

end FrameIoApdu

end MhWallet
