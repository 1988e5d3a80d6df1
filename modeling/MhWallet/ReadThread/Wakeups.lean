import Mathlib.Data.Fintype.Card
import MhWallet.ReadThread.Lifecycle

/-!
Contract: whether a thread sleeps in `hid_read_timeout` while reports wait for it.

The callback of `mac/hid.c` signals for every report.  That of `libusb/hid.c`
signals only for a report that finds the list empty, which is enough for one
reader at a time, and not for two.

Owns: both guarantees, and the wakeup that two readers of `libusb/hid.c` lose.

Does not own: the end of the read thread.
-/

namespace MhWallet.ReadThread

open MhWallet.Effect

/-- Woken by the condition, and not yet past the loop. -/
def Place.Awake : Place → Prop
  | .waking _ .ok | .resumed _ .ok | .looping _ => True
  | _ => False

instance : DecidablePred Place.Awake
  | .waking _ .ok | .resumed _ .ok | .looping _ => isTrue trivial
  | .waking _ .timedOut | .waking _ .failed => isFalse id
  | .resumed _ .timedOut | .resumed _ .failed => isFalse id
  | .outside _ | .locking _ | .testing _ | .asleep _ => isFalse id

theorem Place.woken_ne_asleep (place : Place) (call : ReadCall) : place.woken ≠ .asleep call := by
  cases place <;> simp [Place.woken]

namespace Monitor

variable {ι : Type} [DecidableEq ι] {backend : Backend} {actor : Actor ι}
  {state after : Monitor ι}

section Signals

variable [Fintype ι]

def awake (state : Monitor ι) : Finset ι :=
  Finset.univ.filter fun client => (state.place client).Awake

omit [DecidableEq ι] in
@[simp] theorem mem_awake {client : ι} : client ∈ state.awake ↔ (state.place client).Awake := by
  simp [awake]

/-- As long as somebody sleeps, there is a thread on its way for each report. -/
def Credited (state : Monitor ι) : Prop :=
  state.dev.down .mac = false → ∀ client call, state.place client = .asleep call →
    state.dev.inputReports.length ≤ state.awake.card

omit [DecidableEq ι] in
theorem Credited.of_change (credited : Credited state)
    (down : after.dev.down .mac = false → state.dev.down .mac = false)
    (sleepers : ∀ client call, after.place client = .asleep call →
      ∃ other earlier, state.place other = .asleep earlier)
    (count : after.dev.inputReports.length + state.awake.card ≤
      after.awake.card + state.dev.inputReports.length) : Credited after := by
  intro up client call asleep
  obtain ⟨other, earlier, slept⟩ := sleepers client call asleep
  have enough := credited (down up) other earlier slept
  omega

/-- One thread moves, and is not among the awake ones before or still is after. -/
theorem awake_subset {client : ι} {place : Place}
    (places : ∀ other, after.place other = if other = client then place else state.place other)
    (stays : (state.place client).Awake → place.Awake) : state.awake ⊆ after.awake := by
  intro other
  rw [mem_awake, mem_awake, places]
  split
  next same =>
    rw [same]
    exact stays
  next => exact id

theorem awake_subset_insert {client : ι} {place : Place}
    (places : ∀ other, after.place other = if other = client then place else state.place other) :
    state.awake ⊆ insert client after.awake := by
  intro other there
  rw [Finset.mem_insert, mem_awake, places]
  split
  next same => exact .inl same
  next => exact .inr (mem_awake.mp there)

omit [Fintype ι] in
/-- A thread that moves and does not fall asleep. -/
theorem sleepers_of_move {client : ι} {place : Place}
    (places : ∀ other, after.place other = if other = client then place else state.place other)
    (up : ∀ call, place ≠ .asleep call) (other : ι) (call : ReadCall)
    (asleep : after.place other = .asleep call) :
    ∃ another earlier, state.place another = .asleep earlier := by
  rw [places] at asleep
  split at asleep
  next => exact absurd asleep (up call)
  next => exact ⟨other, call, asleep⟩

/-- A move that leaves the device alone. -/
theorem Credited.move (credited : Credited state) {client : ι} {place : Place}
    (dev : after.dev = state.dev)
    (places : ∀ other, after.place other = if other = client then place else state.place other)
    (up : ∀ call, place ≠ .asleep call) (stays : (state.place client).Awake → place.Awake) :
    Credited after := by
  apply credited.of_change
  · rw [dev]
    exact id
  · exact sleepers_of_move places up
  · have kept := Finset.card_le_card (awake_subset places stays)
    rw [dev]
    omega

omit [DecidableEq ι] in
/-- A step that moves no thread and leaves the list alone. -/
theorem Credited.same_places (credited : Credited state) (places : after.place = state.place)
    (reports : after.dev.inputReports = state.dev.inputReports)
    (down : after.dev.down .mac = false → state.dev.down .mac = false) : Credited after := by
  intro up client call asleep
  have same : after.awake = state.awake := by
    ext other
    simp [places]
  rw [places] at asleep
  rw [reports, same]
  exact credited (down up) client call asleep

/-- A thread that holds the mutex does what it has decided. -/
theorem Credited.carryOut (credited : Credited state) {client : ι} {call : ReadCall}
    {decision : Decision} (takes : decision.Takes state.dev)
    (returns : ∀ bytesRead, decision = .returns bytesRead →
      state.dev.down .mac = true ∨ ¬ (state.place client).Awake)
    (sleeps : decision = .sleeps → state.dev.inputReports = []) :
    Credited (state.carryOut client call decision) := by
  have places := fun other => carryOut_place state client other call decision
  cases decision with
  | takes rpt rest =>
      apply credited.of_change
      · exact id
      · exact sleepers_of_move places (by simp [reached])
      · have most := Finset.card_le_card (awake_subset_insert places)
        have one := Finset.card_insert_le client
          (state.carryOut client call (.takes rpt rest)).awake
        have first : state.dev.inputReports = rpt :: rest := takes rpt rest rfl
        simp only [Monitor.carryOut, first, List.length_cons] at most one ⊢
        omega
  | returns bytesRead =>
      intro up
      rcases returns bytesRead rfl with down | elsewhere
      · exact absurd (up.symm.trans down) Bool.false_ne_true
      · have moved : Credited (state.carryOut client call (.returns bytesRead)) :=
          credited.move rfl places (by simp [reached]) fun awake => absurd awake elsewhere
        exact moved up
  | loops => exact credited.move rfl places (by simp [reached]) fun _ => trivial
  | sleeps =>
      intro _ _ _ _
      have empty : (state.carryOut client call .sleeps).dev.inputReports = [] := sleeps rfl
      rw [empty]
      exact Nat.zero_le _

/-- The callback attaches a report and wakes a sleeper. -/
theorem Credited.attach (credited : Credited state) {loop : EventLoop} {rpt : Bytes}
    {signalled : Option ι} (wakes : state.Wakes signalled) :
    Credited (state.attachReport .mac loop rpt signalled) := by
  cases signalled with
  | none =>
      intro _ client call asleep
      simp only [attachReport] at asleep
      exact absurd asleep (by simpa using wakes client call)
  | some woken =>
      obtain ⟨call, asleep⟩ := wakes
      apply credited.of_change
      · exact id
      · exact fun _ _ _ => ⟨woken, call, asleep⟩
      · have grown : insert woken state.awake ⊆
            (state.attachReport .mac loop rpt (some woken)).awake := by
          intro client there
          rw [mem_awake]
          simp only [attachReport, signals, true_and, Option.some.injEq]
          split
          next same =>
            rw [← same, asleep]
            trivial
          next differ =>
            rcases Finset.mem_insert.mp there with same | awake
            · exact absurd same.symm differ
            · exact mem_awake.mp awake
        have more := Finset.card_le_card grown
        rw [Finset.card_insert_of_notMem (by simp [asleep, Place.Awake])] at more
        have length := attach_length state.dev.inputReports rpt
        simp only [attachReport] at more ⊢
        split at length <;> omega

theorem Step.credited (step : Step .mac actor state after) (credited : Credited state) :
    Credited after := by
  cases step with
  | call call place opened =>
      exact credited.move rfl (move_place _ _ · _) (by simp) (by simp [place, Place.Awake])
  | lock place free =>
      exact credited.move rfl (enter_place _ _ · _) (by simp) (by simp [place, Place.Awake])
  | test place =>
      apply credited.carryOut (firstTests_takes _ _ _)
      · intro _ _
        exact .inr (by simp [place, Place.Awake])
      · intro sleeps
        exact absurd sleeps (firstTests_ne_sleeps _ _ _)
  | loop place =>
      apply credited.carryOut (loopHead_takes _ _ _)
      · intro bytesRead returns
        grind [loopHead]
      · exact loopHead_sleeps
  | wake res place timed =>
      exact credited.move rfl (move_place _ _ · _) (by simp) (by simp [place, Place.Awake])
  | @relock _ client call res place free =>
      have stays : (state.place client).Awake → (Place.resumed call res).Awake := by
        rw [place]
        cases res <;> exact id
      exact credited.move rfl (enter_place _ _ · _) (by simp) stays
  | @resume _ client call res place =>
      apply credited.carryOut (afterWait_takes _ _ _ _)
      · intro bytesRead returns
        rw [place]
        cases res with
        | ok => exact .inl (by grind [afterWait, Device.down])
        | timedOut => exact .inr id
        | failed => exact .inr id
      · intro sleeps
        exact absurd sleeps (afterWait_ne_sleeps _ _ _ _)
  | @poll _ loop place =>
      apply credited.same_places (poll_place loop)
      · cases loop <;> simp only [Monitor.poll] <;> split <;> rfl
      · cases loop <;> simp only [Monitor.poll] <;> split <;> exact id
  | dispatch status libusb place pending => cases libusb
  | handled libusb place => cases libusb
  | broken libusb place => cases libusb
  | submit submitted place =>
      cases submitted with
      | true => exact credited
      | false => exact credited.same_places rfl rfl (by simp [Monitor.submit, shutDown, Device.down])
  | report rpt mac place => exact credited
  | removal mac place => exact credited.same_places rfl rfl (by simp [Device.down])
  | returned code mac place =>
      cases code with
      | finished => exact credited.same_places rfl rfl (by simp [runLoopReturned, Device.down])
      | stopped =>
          exact credited.same_places rfl rfl (by simp [runLoopReturned, shutDown, Device.down])
      | timedOut => exact credited
      | handledSource => exact credited
  | attach signalled place free wakes => exact credited.attach wakes
  | broadcast place free =>
      intro _ client call asleep
      exact absurd asleep (Place.woken_ne_asleep _ _)
  | close opened quiet => exact credited.same_places rfl rfl (by simp [shutDown, Device.down])
  | join place reader => exact credited
  | drain place free =>
      intro _ _ _ _
      exact Nat.zero_le _

theorem credited_of_runs {submitted : Bool}
    (ran : (system ι .mac).Runs (opened submitted) state) : Credited state :=
  keeps_of_step Step.credited ran fun _ _ _ _ => Nat.zero_le _

end Signals

/-! ## A thread that can go on -/

/-- The holder of the mutex is never stuck. -/
theorem step_of_holds {client : ι} (holds : (state.place client).Holds) :
    ∃ after, Step backend (.client client) state after := by
  rcases place : state.place client with last | call | call | call | call | ⟨call, res⟩ | ⟨call, res⟩
  · rw [place] at holds
    exact holds.elim
  · rw [place] at holds
    exact holds.elim
  · exact ⟨_, .test place⟩
  · exact ⟨_, .loop place⟩
  · rw [place] at holds
    exact holds.elim
  · rw [place] at holds
    exact holds.elim
  · exact ⟨_, .resume place⟩

/-- Some thread can go on, if one is awake: the holder of the mutex, or this one. -/
theorem step_of_awake (exclusive : Exclusive state) {client : ι}
    (awake : (state.place client).Awake) :
    ∃ other after, Step backend (.client other) state after := by
  rcases holder : state.holder with _ | other
  · have free := exclusive.not_holds holder client
    rcases place : state.place client with last | call | call | call | call | ⟨call, res⟩ |
      ⟨call, res⟩
    · simp [place, Place.Awake] at awake
    · simp [place, Place.Awake] at awake
    · simp [place, Place.Awake] at awake
    · simp [place, Place.Holds] at free
    · simp [place, Place.Awake] at awake
    · exact ⟨client, _, .relock place holder⟩
    · simp [place, Place.Holds] at free
  · obtain ⟨after, step⟩ := @step_of_holds _ _ backend _ other
      ((exclusive other).mpr holder)
    exact ⟨other, after, step⟩

/-! ## One reader at a time -/

/-- At most one thread is in `hid_read_timeout`. -/
def Alone (state : Monitor ι) : Prop :=
  ∀ first second, (∀ last, state.place first ≠ .outside last) →
    (∀ last, state.place second ≠ .outside last) → first = second

/-- A thread sleeps only while the list is empty. -/
def Attended (state : Monitor ι) : Prop :=
  ∀ client call, state.place client = .asleep call → state.dev.inputReports = []

omit [DecidableEq ι] in
theorem Attended.same_places (attended : Attended state) (places : after.place = state.place)
    (reports : after.dev.inputReports = state.dev.inputReports) : Attended after := by
  intro client call asleep
  rw [places] at asleep
  rw [reports]
  exact attended client call asleep

theorem Attended.move (attended : Attended state) {client : ι} {place : Place}
    (dev : after.dev = state.dev)
    (places : ∀ other, after.place other = if other = client then place else state.place other)
    (up : ∀ call, place ≠ .asleep call) : Attended after := by
  intro other call asleep
  obtain ⟨another, earlier, slept⟩ := sleepers_of_move places up other call asleep
  rw [dev]
  exact attended another earlier slept

theorem Attended.carryOut (attended : Attended state) {client : ι} {call : ReadCall}
    {decision : Decision} (takes : decision.Takes state.dev)
    (sleeps : decision = .sleeps → state.dev.inputReports = []) :
    Attended (state.carryOut client call decision) := by
  have places := fun other => carryOut_place state client other call decision
  cases decision with
  | takes rpt rest =>
      intro other earlier asleep
      obtain ⟨another, before, slept⟩ :=
        sleepers_of_move places (by simp [reached]) other earlier asleep
      have first : state.dev.inputReports = rpt :: rest := takes rpt rest rfl
      exact absurd (first.symm.trans (attended another before slept)) (List.cons_ne_nil rpt rest)
  | returns bytesRead => exact attended.move rfl places (by simp [reached])
  | loops => exact attended.move rfl places (by simp [reached])
  | sleeps => exact fun _ _ _ => sleeps rfl

/-- The callback signals the one sleeper there is, or the list was not empty and
nobody slept. -/
theorem Attended.attach (attended : Attended state) (alone : Alone state) {loop : EventLoop}
    {rpt : Bytes} {signalled : Option ι} (wakes : state.Wakes signalled) :
    Attended (state.attachReport .libusb loop rpt signalled) := by
  intro client call asleep
  simp only [attachReport] at asleep
  split at asleep
  next => exact absurd asleep (Place.woken_ne_asleep _ _)
  next unsignalled =>
    have empty := attended client call asleep
    rw [empty] at unsignalled
    cases signalled with
    | none => exact absurd asleep (wakes client call)
    | some woken =>
        obtain ⟨earlier, slept⟩ := wakes
        have same : woken = client :=
          alone woken client (by simp [slept]) (by simp [asleep])
        simp [signals, same] at unsignalled

theorem Step.attended (step : Step .libusb actor state after) (alone : Alone state)
    (attended : Attended state) : Attended after := by
  cases step with
  | call call place opened => exact attended.move rfl (move_place _ _ · _) (by simp)
  | lock place free => exact attended.move rfl (enter_place _ _ · _) (by simp)
  | test place =>
      apply attended.carryOut (firstTests_takes _ _ _)
      intro sleeps
      exact absurd sleeps (firstTests_ne_sleeps _ _ _)
  | loop place => exact attended.carryOut (loopHead_takes _ _ _) loopHead_sleeps
  | wake res place timed => exact attended.move rfl (move_place _ _ · _) (by simp)
  | relock place free => exact attended.move rfl (enter_place _ _ · _) (by simp)
  | resume place =>
      apply attended.carryOut (afterWait_takes _ _ _ _)
      intro sleeps
      exact absurd sleeps (afterWait_ne_sleeps _ _ _ _)
  | @poll _ loop place =>
      apply attended.same_places (poll_place loop)
      cases loop <;> simp only [Monitor.poll] <;> split <;> rfl
  | dispatch status libusb place pending =>
      cases status <;> exact attended.same_places rfl rfl
  | handled libusb place => exact attended.same_places rfl rfl
  | broken libusb place => exact attended.same_places rfl rfl
  | submit submitted place => cases submitted <;> exact attended.same_places rfl rfl
  | report rpt mac place => cases mac
  | removal mac place => cases mac
  | returned code mac place => cases mac
  | attach signalled place free wakes => exact attended.attach alone wakes
  | broadcast place free =>
      intro client call asleep
      exact absurd asleep (Place.woken_ne_asleep _ _)
  | close opened quiet => exact attended.same_places rfl rfl
  | join place reader => exact attended.same_places rfl rfl
  | drain place free => exact fun _ _ _ => rfl

omit [DecidableEq ι] in
theorem alone_opened (submitted : Bool) : Alone (opened submitted : Monitor ι) := by
  intro first _ inside
  exact absurd rfl (inside none)

/-! ## The guarantees -/

/-- `mac/hid.c`: while a thread sleeps and the device is up, as many threads are on
their way as there are reports, and while there is a report one of the threads in
`hid_read_timeout` can go on. -/
theorem mac_reports_attended [Fintype ι] {submitted : Bool}
    (ran : (system ι .mac).Runs (opened submitted) state)
    (up : state.dev.down .mac = false) {sleeper : ι} {call : ReadCall}
    (asleep : state.place sleeper = .asleep call) :
    state.dev.inputReports.length ≤ state.awake.card ∧
      (state.dev.inputReports ≠ [] →
        ∃ client after, Step .mac (.client client) state after) := by
  have enough := credited_of_runs ran up sleeper call asleep
  refine ⟨enough, ?_⟩
  intro waiting
  have positive : 0 < state.awake.card :=
    Nat.lt_of_lt_of_le (List.length_pos_iff.mpr waiting) enough
  obtain ⟨client, there⟩ := Finset.card_pos.mp positive
  exact step_of_awake (exclusive_of_reachable ⟨_, ⟨submitted, rfl⟩, ran⟩) (mem_awake.mp there)

/-- Two threads sleep, and a report wakes one of them. -/
theorem mac_reports_attended_of_two :
    ∃ state : Monitor Bool, state.place false = .asleep (hidRead 64) ∧
      state.dev.inputReports = [[7]] ∧
      state.dev.inputReports.length ≤ state.awake.card ∧
      (state.dev.inputReports ≠ [] →
        ∃ client after, Step .mac (.client client) state after) := by
  have start : (system Bool .mac).Runs (opened true) (opened true) := .refl
  have calling := start.tail ⟨.client false, .call (hidRead 64) rfl rfl⟩
  have testing := calling.tail ⟨.client false, .lock rfl rfl⟩
  have looping := testing.tail ⟨.client false, .test rfl⟩
  have asleep := looping.tail ⟨.client false, .loop rfl⟩
  have callingToo := asleep.tail ⟨.client true, .call (hidRead 64) rfl rfl⟩
  have testingToo := callingToo.tail ⟨.client true, .lock rfl rfl⟩
  have loopingToo := testingToo.tail ⟨.client true, .test rfl⟩
  have asleepToo := loopingToo.tail ⟨.client true, .loop rfl⟩
  have polled := asleepToo.tail ⟨.reader, .poll rfl⟩
  have received := polled.tail ⟨.reader, .report [7] rfl rfl⟩
  have attached := received.tail ⟨.reader, .attach (some true) rfl rfl ⟨hidRead 64, rfl⟩⟩
  exact ⟨_, rfl, rfl,
    @mac_reports_attended Bool _ _ _ true attached rfl false (hidRead 64) rfl⟩

/-- `libusb/hid.c` with one reader at a time: no thread sleeps while a report is in
the list. -/
theorem libusb_reports_attended
    (reachable : ((system ι .libusb).within Alone).Reachable state) {sleeper : ι}
    {call : ReadCall} (asleep : state.place sleeper = .asleep call) :
    state.dev.inputReports = [] := by
  have both : Alone state ∧ Attended state := by
    apply reachable.invariant
    · rintro _ ⟨submitted, rfl⟩
      exact ⟨alone_opened submitted, fun _ _ _ => rfl⟩
    · rintro before after _ ⟨alone, attended⟩ ⟨⟨actor, step⟩, next⟩
      exact ⟨next, step.attended alone attended⟩
  exact both.2 sleeper call asleep

/-- A thread that sleeps until a report comes. -/
theorem libusb_reports_attended_while_asleep :
    ∃ state : Monitor Unit, state.place () = .asleep (hidRead 64) ∧
      state.dev.inputReports = [] := by
  have everyone : ∀ state : Monitor Unit, Alone state := fun _ _ _ _ _ => rfl
  have start : ((system Unit .libusb).within Alone).Reachable (opened true) :=
    .of_initial ⟨true, rfl⟩
  have calling := start.next ⟨⟨.client (), .call (hidRead 64) rfl rfl⟩, everyone _⟩
  have testing := calling.next ⟨⟨.client (), .lock rfl rfl⟩, everyone _⟩
  have looping := testing.next ⟨⟨.client (), .test rfl⟩, everyone _⟩
  have asleep := looping.next ⟨⟨.client (), .loop rfl⟩, everyone _⟩
  exact ⟨_, rfl, @libusb_reports_attended Unit _ _ asleep () (hidRead 64) rfl⟩

end Monitor

end MhWallet.ReadThread
