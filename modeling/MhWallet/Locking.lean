import MhWallet.Wallet.Flag

/-!
Contract: which calls lock a mutex that they already hold.

`read` and `read_back` fetch the text of a device error through
`get_dev_error`, which takes the mutex that they hold.

Owns: the mutexes held along a sequence of events, the composition rules of the
lock discipline, and the exact condition for every public operation.
-/

namespace MhWallet

open MhWallet.Effect MhWallet.Method

/-! ## The mutexes held along a sequence of events -/

def lockStep (held : List Mutex) : Event → Option (List Mutex)
  | .lock mutex => if mutex ∈ held then none else some (mutex :: held)
  | .unlock mutex => some (held.erase mutex)
  | _ => some held

/-- The mutexes held after these events; none if one of them locks a mutex that
is held. -/
def heldAfter (held : List Mutex) (events : List Event) : Option (List Mutex) :=
  events.foldlM lockStep held

theorem heldAfter_append (held : List Mutex) (first second : List Event) :
    heldAfter held (first ++ second) =
      (heldAfter held first).bind fun middle => heldAfter middle second :=
  List.foldlM_append

@[simp] theorem heldAfter_nil (held : List Mutex) : heldAfter held [] = some held := rfl

@[simp] theorem heldAfter_cons (held : List Mutex) (event : Event) (events : List Event) :
    heldAfter held (event :: events) =
      (lockStep held event).bind fun middle => heldAfter middle events := rfl

/-- An error of the device that `hid_error` reports. -/
def Event.reportsError : Event → Bool
  | .hidError _ (some _) => true
  | _ => false

/-- A call that waits for a mutex that it holds. -/
def Blocked {α : Type} (outcome : Except Stop α) : Prop :=
  ∃ mutex, outcome = .error (.deadlocks mutex)

theorem Blocked.not_ended {α : Type} {outcome : Except Stop α} (blocked : Blocked outcome) :
    ¬ Ended outcome := by
  obtain ⟨mutex, rfl⟩ := blocked
  exact id

/-- The lock events of a part of a call: in order if no error was reported, and
then balanced if the part ended; not in order, and blocked, if one was. -/
structure Traced {α : Type} (held : List Mutex) (events : List Event)
    (outcome : Except Stop α) (after : List Mutex) : Prop where
  clean : events.any Event.reportsError = false →
    heldAfter held events = some after ∧ ¬ Blocked outcome ∧ (Ended outcome → after = held)
  faulty : events.any Event.reportsError = true →
    heldAfter held events = none ∧ Blocked outcome

namespace Traced

variable {α β : Type} {held middle after : List Mutex} {events later : List Event}
  {first : Except Stop α} {second : Except Stop β}

theorem silent (traced : Traced held events first middle) (ended : Ended first) :
    events.any Event.reportsError = false := by
  by_contra fault
  exact (traced.faulty (by simpa using fault)).2.not_ended ended

theorem balanced (traced : Traced held events first middle) (ended : Ended first) :
    middle = held :=
  (traced.clean (traced.silent ended)).2.2 ended

/-- A part that ended is followed by a part that starts with the same mutexes. -/
theorem join (traced : Traced held events first middle) (ended : Ended first)
    (following : Traced middle later second after) :
    Traced held (events ++ later) second after := by
  have silent := traced.silent ended
  have balanced := traced.balanced ended
  have chained : heldAfter held (events ++ later) = heldAfter middle later := by
    rw [heldAfter_append, (traced.clean silent).1]
    rfl
  refine ⟨?_, ?_⟩
  · intro quiet
    rw [List.any_append, silent, Bool.false_or] at quiet
    obtain ⟨inOrder, moving, same⟩ := following.clean quiet
    exact ⟨chained.trans inOrder, moving, fun done => (same done).trans balanced⟩
  · intro fault
    rw [List.any_append, silent, Bool.false_or] at fault
    obtain ⟨broken, blocked⟩ := following.faulty fault
    exact ⟨chained.trans broken, blocked⟩

end Traced

/-- An action keeps to the discipline from one scene. -/
def DisciplinedAt {O σ α : Type} (action : Method O σ α) (scene : Scene O σ) : Prop :=
  ∃ events, (action.run scene).2.world.log = scene.world.log ++ events ∧
    Traced scene.world.held events (action.run scene).1 (action.run scene).2.world.held

/-- An action keeps to the discipline from every state of the mutexes that it
needs. -/
def Disciplined {O σ α : Type} (needs : List Mutex → Prop) (action : Method O σ α) : Prop :=
  ∀ scene, needs scene.world.held → DisciplinedAt action scene

theorem DisciplinedAt.bind {O σ α β : Type} {action : Method O σ α} {next : α → Method O σ β}
    {scene : Scene O σ} (first : DisciplinedAt action scene)
    (rest : ∀ value reached, action.run scene = (.ok value, reached) →
      reached.world.held = scene.world.held → DisciplinedAt (next value) reached) :
    DisciplinedAt (action >>= next) scene := by
  obtain ⟨events, log, traced⟩ := first
  rcases ran : action.run scene with ⟨reason | value, reached⟩
  · rw [DisciplinedAt, Action.run_bind_error ran]
    rw [ran] at log traced
    refine ⟨events, log, fun quiet => ?_, fun fault => ?_⟩
    · obtain ⟨inOrder, moving, same⟩ := traced.clean quiet
      exact ⟨inOrder, by simpa [Blocked] using moving, same⟩
    · obtain ⟨broken, blocked⟩ := traced.faulty fault
      exact ⟨broken, by simpa [Blocked] using blocked⟩
  · rw [DisciplinedAt, Action.run_bind_ok ran]
    rw [ran] at log traced
    obtain ⟨later, laterLog, laterTraced⟩ := rest value reached ran (traced.balanced trivial)
    exact ⟨events ++ later, by rw [laterLog, log, List.append_assoc],
      traced.join trivial laterTraced⟩

namespace Disciplined

variable {O P σ α β : Type} {needs : List Mutex → Prop}

theorem mono {weaker : List Mutex → Prop} {action : Method O σ α}
    (disciplined : Disciplined weaker action)
    (entails : ∀ held, needs held → weaker held) : Disciplined needs action :=
  fun scene needed => disciplined scene (entails _ needed)

/-- An action that leaves the log and the mutexes alone. -/
theorem still {action : Method O σ α}
    (log : ∀ scene, (action.run scene).2.world.log = scene.world.log)
    (held : ∀ scene, (action.run scene).2.world.held = scene.world.held)
    (moving : ∀ scene, ¬ Blocked (action.run scene).1) : Disciplined needs action := by
  intro scene _
  refine ⟨[], by rw [log, List.append_nil], ?_, by simp⟩
  intro _
  rw [held]
  exact ⟨rfl, moving scene, fun _ => rfl⟩

/-- An action that returns and leaves the log and the mutexes alone. -/
theorem returns {action : Method O σ α} {value : Scene O σ → α}
    {reached : Scene O σ → Scene O σ}
    (ran : ∀ scene, action.run scene = (.ok (value scene), reached scene))
    (log : ∀ scene, (reached scene).world.log = scene.world.log)
    (held : ∀ scene, (reached scene).world.held = scene.world.held) :
    Disciplined needs action :=
  still (fun scene => by rw [ran, log]) (fun scene => by rw [ran, held])
    fun scene => by simp [ran, Blocked]

theorem pure (value : α) : Disciplined needs (Pure.pure value : Method O σ α) :=
  returns (fun _ => rfl) (fun _ => rfl) (fun _ => rfl)

theorem stop (reason : Stop) (moving : ∀ mutex, reason ≠ .deadlocks mutex) :
    Disciplined needs (Action.stop reason : Method O σ α) :=
  still (fun _ => rfl) (fun _ => rfl) fun _ => by simpa [Blocked] using moving

theorem self : Disciplined needs (self : Method O σ O) :=
  returns (fun _ => rfl) (fun _ => rfl) (fun _ => rfl)

theorem updateSelf (change : O → O) :
    Disciplined needs (updateSelf change : Method O σ Unit) :=
  returns (fun _ => rfl) (fun _ => rfl) (fun _ => rfl)

theorem throw (exception : Exception) :
    Disciplined needs (throw exception : Method O σ α) := stop _ (by simp)

theorem ofOption (reason : Stop) (moving : ∀ mutex, reason ≠ .deadlocks mutex)
    (value : Option α) : Disciplined needs (Action.ofOption reason value : Method O σ α) := by
  cases value with
  | none => exact stop reason moving
  | some value => exact pure value

theorem orOutOfRange (value : Option α) :
    Disciplined needs (orOutOfRange value : Method O σ α) :=
  ofOption (.throws .outOfRange) (by simp) value

/-- A step of the world that logs one event, neither a lock nor an error. -/
theorem onWorld {step : World σ → α × World σ} (event : World σ → Event)
    (log : ∀ world, (step world).2.log = world.log ++ [event world])
    (held : ∀ world, (step world).2.held = world.held)
    (quiet : ∀ world held, lockStep held (event world) = some held ∧
      (event world).reportsError = false) :
    Disciplined needs (onWorld step : Method O σ α) := by
  intro scene _
  obtain ⟨free, silent⟩ := quiet scene.world scene.world.held
  refine ⟨[event scene.world], log scene.world, ?_, ?_⟩
  · intro _
    rw [run_onWorld, held, heldAfter_cons, free]
    exact ⟨rfl, by simp [Blocked], fun _ => rfl⟩
  · intro fault
    simp [silent] at fault

theorem bind {action : Method O σ α} {next : α → Method O σ β}
    (first : Disciplined needs action) (rest : ∀ value, Disciplined needs (next value)) :
    Disciplined needs (action >>= next) :=
  fun scene needed => (first scene needed).bind fun value reached _ sameHeld =>
    rest value reached (sameHeld ▸ needed)

theorem map {action : Method O σ α} (disciplined : Disciplined needs action)
    (change : α → β) : Disciplined needs (change <$> action) := by
  rw [map_eq_pure_bind]
  exact bind disciplined fun value => pure (change value)

theorem onMember (lens : Lens O P) {inner : Method P σ α} (disciplined : Disciplined needs inner) :
    Disciplined needs (onMember lens inner) := by
  intro scene needed
  exact disciplined ⟨lens.get scene.self, scene.world⟩ needed

theorem onTemporary (temporary : P) {inner : Method P σ α}
    (disciplined : Disciplined needs inner) :
    Disciplined needs (onTemporary temporary inner : Method O σ α) := by
  intro scene needed
  exact disciplined ⟨temporary, scene.world⟩ needed

/-- A handler that goes on after an exception finds the mutexes as they were. -/
theorem recover {body : Method O σ α} {handler : Stop → Option (Method O σ α)}
    (first : Disciplined needs body)
    (unwound : ∀ reason next, handler reason = some next → reason.Unwinds)
    (rest : ∀ reason next, handler reason = some next → Disciplined needs next) :
    Disciplined needs (body.recover handler) := by
  intro scene needed
  obtain ⟨events, log, traced⟩ := first scene needed
  rcases ran : body.run scene with ⟨reason | value, reached⟩
  · rw [ran] at log traced
    rcases handled : handler reason with _ | next
    · have stopped : (body.recover handler).run scene = (.error reason, reached) := by
        simp only [Action.run_recover, ran, handled]
      rw [DisciplinedAt, stopped]
      exact ⟨events, log, traced⟩
    · have continued : (body.recover handler).run scene = next.run reached := by
        simp only [Action.run_recover, ran, handled]
      have ended : Ended (.error reason : Except Stop α) := unwound reason next handled
      have sameHeld : reached.world.held = scene.world.held := traced.balanced ended
      obtain ⟨later, laterLog, laterTraced⟩ :=
        rest reason next handled reached (sameHeld ▸ needed)
      rw [DisciplinedAt, continued]
      exact ⟨events ++ later, by rw [laterLog, log, List.append_assoc],
        traced.join ended laterTraced⟩
  · have returned : (body.recover handler).run scene = (.ok value, reached) := by
      simp only [Action.run_recover, ran]
    rw [ran] at log traced
    rw [DisciplinedAt, returned]
    exact ⟨events, log, traced⟩

/-- A scoped lock on a free mutex. -/
theorem withLock {mutex : Mutex} {inside : List Mutex → Prop} {body : Method O σ α}
    (free : ∀ held, needs held → mutex ∉ held) (disciplined : Disciplined inside body)
    (enter : ∀ held, needs held → inside (mutex :: held)) :
    Disciplined needs (withLock mutex body) := by
  intro scene needed
  obtain ⟨events, log, traced⟩ :=
    disciplined ⟨scene.self, scene.world.acquire mutex⟩ (enter _ needed)
  have notHeld := free _ needed
  have entered : heldAfter scene.world.held (.lock mutex :: events) =
      heldAfter (mutex :: scene.world.held) events := by
    rw [heldAfter_cons, lockStep, if_neg notHeld]
    rfl
  rw [DisciplinedAt, run_withLock_eq notHeld scene.self body]
  rcases ran : body.run ⟨scene.self, scene.world.acquire mutex⟩ with ⟨outcome, reached⟩
  rw [ran] at log traced
  have grown : reached.world.log = scene.world.log ++ (.lock mutex :: events) := by
    rw [show reached.world.log = _ from log]
    simp [World.acquire]
  by_cases ended : Ended outcome
  · have silent := traced.silent ended
    have inOrder : heldAfter (mutex :: scene.world.held) events = some reached.world.held :=
      (traced.clean silent).1
    have sameHeld : reached.world.held = mutex :: scene.world.held := traced.balanced ended
    simp only [if_pos ended]
    refine ⟨.lock mutex :: events ++ [.unlock mutex], ?_, ?_, ?_⟩
    · simp [World.release, grown]
    · intro _
      rw [heldAfter_append, entered, inOrder]
      exact ⟨by simp [lockStep, World.release], (traced.clean silent).2.1,
        by simp [sameHeld, World.release]⟩
    · intro fault
      simp [silent, Event.reportsError] at fault
  · simp only [if_neg ended]
    refine ⟨.lock mutex :: events, grown, ?_, ?_⟩
    · intro quiet
      rw [List.any_cons, show (Event.lock mutex).reportsError = false from rfl,
        Bool.false_or] at quiet
      exact ⟨entered.trans (traced.clean quiet).1, (traced.clean quiet).2.1,
        fun done => absurd done ended⟩
    · intro fault
      rw [List.any_cons, show (Event.lock mutex).reportsError = false from rfl,
        Bool.false_or] at fault
      exact ⟨entered.trans (traced.faulty fault).1, (traced.faulty fault).2⟩

end Disciplined

/-! ## The calls of hidapi -/

namespace Hidapi

variable {O σ : Type} (hid : Hidapi σ) {needs : List Mutex → Prop}

theorem issue_frame (opened : Bool) (world : World σ) :
    (issue opened world).2.log = world.log ∧ (issue opened world).2.held = world.held := by
  cases opened <;> exact ⟨rfl, rfl⟩

theorem hidEnumerate_disciplined (vendorId productId : UInt16) :
    Disciplined needs (hid.hidEnumerate vendorId productId : Method O σ _) :=
  .onWorld (fun _ => .hidEnumerate vendorId productId) (fun _ => rfl) (fun _ => rfl)
    fun _ _ => ⟨rfl, rfl⟩

theorem hidOpen_disciplined (vendorId productId : UInt16) :
    Disciplined needs (hid.hidOpen vendorId productId : Method O σ _) := by
  refine .onWorld (fun world => .hidOpen vendorId productId
      (issue (hid.openDevice vendorId productId world.env).1
        { world with env := (hid.openDevice vendorId productId world.env).2 }).1)
    (fun world => ?_) (fun world => ?_) fun _ _ => ⟨rfl, rfl⟩
  · exact congrArg (· ++ _) (issue_frame _ _).1
  · exact (issue_frame _ _).2

theorem hidOpenPath_disciplined (path : Option String) :
    Disciplined needs (hid.hidOpenPath path : Method O σ _) := by
  refine .onWorld (fun world => .hidOpenPath path
      (issue (hid.openPath path world.env).1
        { world with env := (hid.openPath path world.env).2 }).1)
    (fun world => ?_) (fun world => ?_) fun _ _ => ⟨rfl, rfl⟩
  · exact congrArg (· ++ _) (issue_frame _ _).1
  · exact (issue_frame _ _).2

theorem hidSetNonblocking_disciplined (handle : Handle) :
    Disciplined needs (hidSetNonblocking handle : Method O σ _) :=
  .onWorld (fun _ => .hidSetNonblocking handle) (fun _ => rfl) (fun _ => rfl)
    fun _ _ => ⟨rfl, rfl⟩

theorem hidClose_disciplined (handle : Handle) :
    Disciplined needs (hid.hidClose handle : Method O σ _) :=
  .onWorld (fun _ => .hidClose handle) (fun _ => rfl) (fun _ => rfl)
    fun _ _ => ⟨rfl, rfl⟩

theorem hidWrite_disciplined (handle : Option Handle) (data : Bytes) :
    Disciplined needs (hid.hidWrite handle data : Method O σ _) := by
  refine .bind (.onWorld (fun _ => .hidWrite handle data) (fun _ => rfl) (fun _ => rfl)
    fun _ _ => ⟨rfl, rfl⟩) fun _ => ?_
  cases handle with
  | none => exact .stop _ (by simp)
  | some handle => exact .returns (fun _ => rfl) (fun _ => rfl) (fun _ => rfl)

theorem hidRead_disciplined (handle : Option Handle) (readLen : Nat) :
    Disciplined needs (hid.hidRead handle readLen : Method O σ _) := by
  cases handle with
  | none =>
      exact .bind (.onWorld (fun _ => .hidRead none none) (fun _ => rfl) (fun _ => rfl)
        fun _ _ => ⟨rfl, rfl⟩) fun _ => .stop _ (by simp)
  | some handle =>
      exact .bind (.onWorld
        (fun world => .hidRead (some handle) (hid.read handle readLen world.env).1)
        (fun _ => rfl) (fun _ => rfl) fun _ _ => ⟨rfl, rfl⟩) fun _ => .ofOption .waits (by simp) _

end Hidapi

/-! ## The device -/

/-- No mutex of a device is held. -/
def NoDevice (held : List Mutex) : Prop := ∀ object, Mutex.device object ∉ held

theorem noDevice_nil : NoDevice [] := fun _ => List.not_mem_nil

namespace HidppDevice

variable {σ : Type} (tb : Toolbox) (hid : Hidapi σ)

/-- A member function that locks the mutex of the device around a part without
locks. -/
theorem locked_disciplined {α : Type} {body : HidppDevice → Method HidppDevice σ α}
    (inner : ∀ dev, Disciplined (fun _ => True) (body dev)) :
    Disciplined NoDevice (do
      let dev ← self
      withLock dev.mDevLock (body dev) : Method HidppDevice σ α) :=
  .bind .self fun dev =>
    .withLock (fun _ free => free dev.object) (inner dev) fun _ _ => trivial

theorem open_disciplined : Disciplined NoDevice («open» hid) := by
  refine locked_disciplined fun dev => ?_
  dsimp only
  split
  · refine .bind (hid.hidOpenPath_disciplined _) fun opened => .bind (.updateSelf _) fun _ => ?_
    cases opened with
    | none => exact .pure _
    | some handle => exact .bind (Hidapi.hidSetNonblocking_disciplined handle) fun _ => .pure _
  · refine .bind (hid.hidOpen_disciplined _ _) fun opened => .bind (.updateSelf _) fun _ => ?_
    cases opened with
    | none => exact .pure _
    | some handle => exact .bind (Hidapi.hidSetNonblocking_disciplined handle) fun _ => .pure _

theorem close_disciplined : Disciplined NoDevice (close hid) := by
  refine locked_disciplined fun _ => .bind .self fun dev => ?_
  cases dev.mDev with
  | none => exact .pure _
  | some handle => exact .bind (hid.hidClose_disciplined handle) fun _ => .updateSelf _

theorem write_disciplined (data : Bytes) : Disciplined NoDevice (write hid data) :=
  locked_disciplined fun dev => .map (hid.hidWrite_disciplined dev.mDev data) _

theorem readRaw_disciplined (hasOut : Bool) (readLen : Nat) :
    Disciplined NoDevice (readRaw hid hasOut readLen) := by
  unfold readRaw
  cases hasOut with
  | false => exact .throw _
  | true => exact locked_disciplined fun dev => .map (hid.hidRead_disciplined dev.mDev _) _

/-- A read with its error test breaks the discipline exactly if `hid_error`
reports an error. -/
theorem checkedRead_disciplined {α : Type} (readLen : Nat) (failed : α)
    (returned : ReadResult → α) :
    Disciplined NoDevice (checkedRead hid readLen failed returned) := by
  rintro ⟨dev, world⟩ free
  have notHeld : dev.mDevLock ∉ world.held := free dev.object
  by_cases device : dev.mDev = none
  · rw [DisciplinedAt, checkedRead_run_of_null hid device notHeld]
    refine ⟨[.lock dev.mDevLock, .hidRead none none], by
      simp [World.acquire, World.record], ?_, by simp [Event.reportsError]⟩
    intro _
    simp [lockStep, notHeld, World.acquire, World.record, Ended, Stop.Unwinds, Blocked]
  · obtain ⟨handle, device⟩ := Option.ne_none_iff_exists'.mp device
    rw [DisciplinedAt, checkedRead_run hid device notHeld]
    rcases hid.read handle readLen world.env with ⟨_ | result, env⟩
    · refine ⟨[.lock dev.mDevLock, .hidRead (some handle) none], rfl, ?_,
        by simp [Event.reportsError]⟩
      intro _
      simp [lockStep, notHeld, World.afterWait, Ended, Stop.Unwinds, Blocked]
    · rcases failure : result.error with _ | message
      · simp only [World.afterRead, failure]
        refine ⟨[.lock dev.mDevLock, .hidRead (some handle) (some result),
          .hidError handle none, .unlock dev.mDevLock], rfl, ?_, by simp [Event.reportsError]⟩
        intro _
        simp [lockStep, notHeld, World.extend, Blocked]
      · simp only [World.afterRead, failure]
        refine ⟨[.lock dev.mDevLock, .hidRead (some handle) (some result),
          .hidError handle (some message), .lock dev.mDevLock], rfl,
          by simp [Event.reportsError], ?_⟩
        intro _
        simp [lockStep, notHeld, Blocked]

theorem read_disciplined (out : Bytes) (readLen : Nat) :
    Disciplined NoDevice (read tb hid out readLen) := by
  rw [read_eq]
  exact checkedRead_disciplined hid _ _ _

theorem readBack_disciplined (out : Bytes) (seq readLen : Nat) :
    Disciplined NoDevice (readBack tb hid out seq readLen) := by
  rw [readBack_eq]
  exact .map (checkedRead_disciplined hid _ _ _) _

end HidppDevice

/-! ## The framer -/

namespace FrameIo

variable {σ : Type} (tb : Toolbox) (hid : Hidapi σ) {needs : List Mutex → Prop}

theorem accept_disciplined (out : Bytes) :
    Disciplined needs (accept tb out : Method FrameIo σ _) := by
  refine .bind .self fun framer => .bind (.orOutOfRange _) fun channelId =>
    .bind (.orOutOfRange _) fun commandTag => .bind (.orOutOfRange _) fun cseq => ?_
  split
  · exact .throw _
  · split
    · exact .throw _
    · split
      · exact .throw _
      · exact .bind (.orOutOfRange _) fun content => .bind (.updateSelf _) fun _ => .pure _

theorem read_disciplined (out : Bytes) : Disciplined NoDevice (read tb hid out) := by
  refine .bind .self fun framer =>
    .bind (.onMember io (HidppDevice.read_disciplined tb hid _ _)) fun result =>
      .bind (.updateSelf _) fun _ => ?_
  split
  · exact .pure _
  · exact accept_disciplined tb out

theorem writeLoop_disciplined (rounds : Nat) (buffer chunk : Bytes) (cseq : UInt16) :
    Disciplined NoDevice (writeLoop tb hid rounds buffer chunk cseq) := by
  induction rounds generalizing buffer chunk cseq with
  | zero =>
      unfold writeLoop
      split
      · exact .pure _
      · exact .stop _ (by simp)
  | succ rounds inductionHypothesis =>
      unfold writeLoop
      split
      · exact .pure _
      · exact .bind (.orOutOfRange _) fun toUsb =>
          .bind (.onMember io (HidppDevice.write_disciplined hid toUsb)) fun _ =>
            inductionHypothesis _ _ _

theorem write_disciplined (apdu : Apdu) : Disciplined NoDevice (write tb hid apdu) :=
  .bind (writeLoop_disciplined tb hid _ _ _ _) fun _ => .pure _

end FrameIo

namespace FrameIoApdu

variable {σ : Type} (tb : Toolbox) (hid : Hidapi σ)

theorem readMore_disciplined (buffer : Bytes) :
    Disciplined NoDevice (readMore tb hid buffer) :=
  .bind (.onMember frameIo (FrameIo.read_disciplined tb hid buffer)) fun _ =>
    .bind (.updateSelf _) fun _ => .pure _

theorem readRest_disciplined (respLen : UInt16) (rounds : Nat) (buffer : Bytes) :
    Disciplined NoDevice (readRest tb hid respLen rounds buffer) := by
  induction rounds generalizing buffer with
  | zero =>
      unfold readRest
      refine .bind .self fun framer => ?_
      split
      · exact .stop _ (by simp)
      · exact .pure _
  | succ rounds inductionHypothesis =>
      unfold readRest
      refine .bind .self fun framer => ?_
      split
      · exact .bind (readMore_disciplined tb hid buffer) fun buffer =>
          inductionHypothesis buffer
      · exact .pure _

theorem conclude_disciplined (respLen : UInt16) (buffer : Bytes)
    (statusCode : Option UInt16) :
    Disciplined NoDevice (conclude tb respLen buffer statusCode : Method _ σ _) := by
  unfold conclude
  split
  · refine .bind (.orOutOfRange _) fun resp => .bind (.orOutOfRange _) fun respCode => ?_
    cases statusCode with
    | none => exact .bind (.pure _) fun _ => .bind (.updateSelf _) fun _ => .pure _
    | some status =>
        exact .bind (.map (.orOutOfRange _) _) fun _ =>
          .bind (.updateSelf _) fun _ => .pure _
  · exact .bind (.updateSelf _) fun _ => .pure _

theorem exchange_disciplined (apdu : Apdu) (statusCode : Option UInt16) :
    Disciplined NoDevice (exchange tb hid apdu statusCode) := by
  unfold exchange
  split
  · exact .throw _
  · exact .bind (.onMember frameIo (.updateSelf _)) fun _ =>
      .bind (.onMember frameIo (FrameIo.write_disciplined tb hid apdu)) fun _ =>
        .bind (readMore_disciplined tb hid _) fun buffer =>
          .bind (.orOutOfRange _) fun declared =>
            .bind (readRest_disciplined tb hid _ _ _) fun buffer =>
              conclude_disciplined tb _ _ _

end FrameIoApdu

/-! ## The wallet -/

namespace NanosWallet

variable {O σ : Type} (tb : Toolbox) (hid : Hidapi σ)

/-- No mutex is held at all. -/
def NoMutex (held : List Mutex) : Prop := held = []

theorem noDevice_of_noMutex (held : List Mutex) (none : NoMutex held) : NoDevice held := by
  rw [show held = [] from none]
  exact noDevice_nil

/-- A member function under the wallet's mutex. -/
theorem locked_disciplined {α : Type} {body : Method NanosWallet σ α}
    (inner : Disciplined NoDevice body) : Disciplined NoMutex (withLock .wallet body) := by
  refine .withLock (fun held none => ?_) inner fun held none => ?_
  · rw [show held = [] from none]
    exact List.not_mem_nil
  · rw [show held = [] from none]
    intro object member
    simp at member

theorem close_disciplined : Disciplined NoDevice (close hid) := by
  refine .bind .self fun wallet => ?_
  dsimp only
  split
  · exact .bind (.onMember io (HidppDevice.close_disciplined hid)) fun _ => .updateSelf _
  · exact .updateSelf _

theorem newObject_disciplined {needs : List Mutex → Prop} :
    Disciplined needs (HidppDevice.newObject : Method O σ Nat) :=
  .returns (fun _ => rfl) (fun _ => rfl) (fun _ => rfl)

theorem destroy_disciplined : Disciplined NoDevice (destroy hid) :=
  .bind (close_disciplined hid) fun _ => .onMember io (HidppDevice.close_disciplined hid)

theorem assignFramer_disciplined (vendorId productId : UInt16) :
    Disciplined NoDevice (assignFramer tb hid vendorId productId) :=
  .bind (.bind newObject_disciplined fun _ => .pure _) fun device =>
    .bind (.bind (.bind (.bind newObject_disciplined fun _ => .pure _) fun _ => .pure _)
      fun _ => .pure _) fun converted => .bind (.updateSelf _) fun _ =>
        .bind (.onTemporary converted.mIo (HidppDevice.close_disciplined hid)) fun _ =>
          .onTemporary device (HidppDevice.close_disciplined hid)

/-- The report of a failed `open`: the device has no handle then, and
`hid_error` is not called. -/
theorem reportOpenFailure_disciplined {wallet : NanosWallet} {world : World σ}
    (null : wallet.mFramer.mIo.mDev = none)
    (free : wallet.mFramer.mIo.mDevLock ∉ world.held) :
    DisciplinedAt (reportOpenFailure hid) ⟨wallet, world⟩ := by
  rw [DisciplinedAt, reportOpenFailure_run hid null free]
  refine ⟨_, rfl, ?_, by simp [Event.reportsError]⟩
  intro _
  simp [lockStep, free, World.extend, Blocked]

theorem openOrReport_disciplined {α : Type} {opened failed : Method NanosWallet σ α}
    (onOpen : Disciplined NoDevice opened) (onFailure : Disciplined NoDevice failed) :
    Disciplined NoDevice (do
      if ← onMember io (HidppDevice.open hid) then opened
      else do
        reportOpenFailure hid
        failed) := by
  rintro ⟨wallet, world⟩ free
  have notHeld : wallet.mFramer.mIo.mDevLock ∉ world.held := free wallet.mFramer.mIo.object
  refine (Disciplined.onMember io (HidppDevice.open_disciplined hid) ⟨wallet, world⟩
    free).bind fun value reached ran sameHeld => ?_
  have freeReached : NoDevice reached.world.held := by
    rw [sameHeld]
    exact free
  cases value with
  | true => exact onOpen reached freeReached
  | false =>
      rw [open_run hid notHeld] at ran
      simp only [Prod.mk.injEq, Except.ok.injEq] at ran
      obtain ⟨refused, rfl⟩ := ran
      refine DisciplinedAt.bind (reportOpenFailure_disciplined hid ?_ ?_)
        fun _ final _ sameFinal => onFailure final (by rw [sameFinal]; exact freeReached)
      · rw [refused]
        rfl
      · exact freeReached _

theorem setValid_disciplined {needs : List Mutex → Prop} (mValid : Bool) :
    Disciplined needs (setValid mValid : Method NanosWallet σ Unit) := .updateSelf _

theorem enumerateDevices_disciplined {needs : List Mutex → Prop} (vendorId productId : UInt16) :
    Disciplined needs (enumerateDevices hid vendorId productId : Method O σ _) :=
  hid.hidEnumerate_disciplined vendorId productId

theorem dropConnection_disciplined : Disciplined NoDevice (dropConnection hid) := by
  refine .bind .self fun wallet => ?_
  split
  · exact close_disciplined hid
  · exact .pure _

theorem connect_disciplined {α : Type} (vendorId productId : UInt16)
    {opened : Method NanosWallet σ α} (failed : α) (onOpen : Disciplined NoDevice opened) :
    Disciplined NoDevice (connect tb hid vendorId productId opened failed) :=
  .bind (assignFramer_disciplined tb hid _ _) fun _ =>
    openOrReport_disciplined hid
      (.bind .self fun _ => .bind (setValid_disciplined _) fun _ => onOpen) (.pure failed)

theorem init_disciplined (productId : UInt16) : Disciplined NoMutex (init tb hid productId) := by
  rw [init_eq]
  refine locked_disciplined (.bind (enumerateDevices_disciplined hid _ _) fun systemDevs =>
    .bind (enumerateDevices_disciplined hid _ _) fun appDevs => ?_)
  split
  · exact .pure _
  · cases appDevs with
    | nil => exact .pure _
    | cons device _ =>
        exact connect_disciplined tb hid _ _ _ (.bind .self fun _ => .pure _)

theorem initRoot_disciplined : Disciplined NoMutex (initRoot tb hid) := by
  rw [initRoot_eq]
  refine locked_disciplined (.bind (enumerateDevices_disciplined hid _ _) fun systemDevs => ?_)
  cases systemDevs with
  | nil => exact .pure _
  | cons device _ => exact connect_disciplined tb hid _ _ _ (.bind .self fun _ => .pure _)

theorem initExt_disciplined (productId : UInt16) :
    Disciplined NoMutex (initExt tb hid productId) := by
  rw [initExt_eq]
  refine locked_disciplined (.bind (enumerateDevices_disciplined hid _ _) fun appDevs =>
    .bind .self fun wallet => ?_)
  split
  · exact .pure _
  · refine .bind (dropConnection_disciplined hid) fun _ =>
      .bind (enumerateDevices_disciplined hid _ _) fun systemDevs => ?_
    split
    · exact .pure _
    · cases appDevs with
      | nil => exact .pure _
      | cons device _ => exact connect_disciplined tb hid _ _ _ (.pure _)

theorem initExtRoot_disciplined : Disciplined NoMutex (initExtRoot tb hid) := by
  rw [initExtRoot_eq]
  refine locked_disciplined (.bind (enumerateDevices_disciplined hid _ _) fun systemDevs =>
    .bind .self fun wallet => ?_)
  split
  · exact .pure _
  · refine .bind (dropConnection_disciplined hid) fun _ => ?_
    split
    · exact .pure _
    · exact connect_disciplined tb hid _ _ _ (.pure _)

theorem reopenWithApp_disciplined (productId : UInt16) :
    Disciplined NoMutex (reopenWithApp tb hid productId) :=
  .bind ((close_disciplined hid).mono noDevice_of_noMutex) fun _ =>
    initExt_disciplined tb hid productId

theorem reopen_disciplined : Disciplined NoDevice (reopen hid) :=
  .bind (.onMember io (HidppDevice.close_disciplined hid)) fun _ =>
    .bind (.onMember io (HidppDevice.open_disciplined hid)) fun _ => .pure _

/-- A round of the loop; only an exception leads to another one. -/
theorem exchangeRound_disciplined (apdu : Apdu) (resCode : Option UInt16)
    {again : Method NanosWallet σ (Bytes × Option UInt16)}
    (next : Disciplined NoDevice again) :
    Disciplined NoDevice (exchangeRound tb hid apdu resCode again) := by
  refine .bind .self fun wallet => ?_
  cases wallet.mFramer.mIo.mDev with
  | none => exact .bind (setValid_disciplined _) fun _ => .pure _
  | some handle =>
      refine .recover (.onMember framer (FrameIoApdu.exchange_disciplined tb hid apdu resCode))
        (fun reason following handled => ?_) (fun reason following handled => ?_)
      · split at handled
        next => trivial
        next => simp at handled
      · split at handled
        next =>
          simp only [Option.some.injEq] at handled
          rw [← handled]
          exact .bind (reopen_disciplined hid) fun _ => next
        next => simp at handled

theorem exchangeLoop_disciplined (apdu : Apdu) (resCode : Option UInt16) (retries : Nat) :
    Disciplined NoDevice (exchangeLoop tb hid apdu resCode retries) := by
  induction retries with
  | zero => exact exchangeRound_disciplined tb hid apdu resCode (.stop _ (by simp))
  | succ retries inductionHypothesis =>
      exact exchangeRound_disciplined tb hid apdu resCode inductionHypothesis

theorem exchange_disciplined (retries : Nat) (apdu : Apdu) (resCode : Option UInt16) :
    Disciplined NoMutex (exchange tb hid retries apdu resCode) := by
  refine locked_disciplined (.bind .self fun wallet => ?_)
  split
  · exact exchangeLoop_disciplined tb hid apdu resCode retries
  · exact .throw _

theorem copyPayload_disciplined {needs : List Mutex → Prop} (content : Bytes) (apdu : Apdu) :
    Disciplined needs (copyPayload content apdu : Method NanosWallet σ Apdu) := by
  unfold copyPayload
  split
  · exact .pure _
  · exact .stop _ (by simp)

theorem command_disciplined (retries : Nat) (apdu : Apdu) (failure : String) :
    Disciplined NoMutex (command tb hid retries apdu failure) := by
  refine .bind (exchange_disciplined tb hid retries apdu (some codeSuccess)) fun answer => ?_
  rcases answer with ⟨response, _ | status⟩
  · exact .pure _
  · dsimp only
    split
    · exact .throw _
    · exact .pure _

theorem getAddress_disciplined (retries : Nat) (deriveIndex : UInt32) (silent : Bool) :
    Disciplined NoMutex (getAddress tb hid retries deriveIndex silent) :=
  .bind (.bind (copyPayload_disciplined _ _) fun data =>
    command_disciplined tb hid retries data _) fun _ => .orOutOfRange _

theorem signTx_disciplined (retries : Nat) (rawTx : Bytes) (deriveIndex : UInt32) :
    Disciplined NoMutex (signTx tb hid retries rawTx deriveIndex) :=
  .bind (.bind (copyPayload_disciplined _ _) fun data =>
    command_disciplined tb hid retries data _) fun _ =>
      .bind (.orOutOfRange _) fun _ => .bind (.orOutOfRange _) fun _ =>
        .bind (.orOutOfRange _) fun _ => .pure _

theorem getAppVersion_disciplined (retries : Nat) :
    Disciplined NoMutex (getAppVersion tb hid retries) :=
  .bind (command_disciplined tb hid retries _ _) fun _ =>
    .bind (.orOutOfRange _) fun _ => .bind (.orOutOfRange _) fun _ =>
      .bind (.orOutOfRange _) fun _ => .pure _

theorem parseAppList_disciplined {needs : List Mutex → Prop} (response : Bytes)
    (rounds offset : Nat) (out : List AppItem) :
    Disciplined needs (parseAppList tb response rounds offset out : Method O σ _) := by
  induction rounds generalizing offset out with
  | zero =>
      unfold parseAppList
      split
      · exact .stop _ (by simp)
      · exact .pure _
  | succ rounds inductionHypothesis =>
      unfold parseAppList
      split
      · refine .bind ?_ fun parsed => inductionHypothesis _ _
        exact .bind (.orOutOfRange _) fun _ => .bind (.orOutOfRange _) fun _ =>
          .bind (.orOutOfRange _) fun _ => .bind (.ofOption .undefined (by simp) _) fun _ =>
            .bind (.orOutOfRange _) fun _ => .pure _
      · exact .pure _

theorem getAppList_disciplined (retries : Nat) :
    Disciplined NoMutex (getAppList tb hid retries) := by
  refine .bind (command_disciplined tb hid retries _ _) fun response => ?_
  split
  · exact .pure _
  · exact parseAppList_disciplined tb response _ _ _

theorem pollForApp_disciplined {needs : List Mutex → Prop} (tries : Nat) (found : Bool)
    (pid : UInt16) : Disciplined needs (pollForApp hid tries found pid) := by
  induction tries generalizing found pid with
  | zero => exact .pure _
  | succ tries inductionHypothesis =>
      unfold pollForApp
      refine .bind (enumerateDevices_disciplined hid _ _) fun devices => ?_
      dsimp only
      split
      · exact .pure _
      · exact inductionHypothesis _ _

theorem runApp_disciplined (retries : Nat) (name : Bytes) :
    Disciplined NoMutex (runApp tb hid retries name) :=
  .bind (.bind (copyPayload_disciplined _ _) fun data =>
    command_disciplined tb hid retries data _) fun _ => pollForApp_disciplined hid _ _ _

theorem getOpenedAppPid_disciplined : Disciplined NoMutex (getOpenedAppPid hid) :=
  locked_disciplined (.map (enumerateDevices_disciplined hid _ _) _)

end NanosWallet

/-! ## The calls of the library -/

/-- A call of a public member function of `hidpp_device`, with its arguments. -/
inductive DeviceOp where
  | open
  | close
  | write (data : Bytes)
  | read (out : Bytes) (readLen : Nat)
  | readRaw (hasOut : Bool) (readLen : Nat)
  | readBack (out : Bytes) (seq readLen : Nat)
  | getError
deriving DecidableEq

/-- The call, without its result. -/
def DeviceOp.call {σ : Type} (tb : Toolbox) (hid : Hidapi σ) :
    DeviceOp → Method HidppDevice σ Unit
  | .open => (fun _ => ()) <$> HidppDevice.open hid
  | .close => HidppDevice.close hid
  | .write data => (fun _ => ()) <$> HidppDevice.write hid data
  | .read out readLen => (fun _ => ()) <$> HidppDevice.read tb hid out readLen
  | .readRaw hasOut readLen => (fun _ => ()) <$> HidppDevice.readRaw hid hasOut readLen
  | .readBack out seq readLen => (fun _ => ()) <$> HidppDevice.readBack tb hid out seq readLen
  | .getError => (fun _ => ()) <$> HidppDevice.getError hid

section Calls

variable {O σ α : Type} (tb : Toolbox) (hid : Hidapi σ) {action : Method O σ α}
  {scene : Scene O σ}

/-- The hidapi calls and lock operations of one call. -/
def eventsOf (action : Method O σ α) (scene : Scene O σ) : List Event :=
  (action.run scene).2.world.log.drop scene.world.log.length

/-- The call takes no mutex that it holds, and does not wait for one. -/
def NeverRelocks (action : Method O σ α) (scene : Scene O σ) : Prop :=
  heldAfter [] (eventsOf action scene) ≠ none ∧ ¬ Blocked (action.run scene).1

/-- No `hid_error` of the call reports an error. -/
def NoDeviceError (action : Method O σ α) (scene : Scene O σ) : Prop :=
  (eventsOf action scene).any Event.reportsError = false

theorem DisciplinedAt.neverRelocks_iff (disciplined : DisciplinedAt action scene)
    (idle : scene.world.held = []) :
    NeverRelocks action scene ↔ NoDeviceError action scene := by
  obtain ⟨events, log, traced⟩ := disciplined
  rw [idle] at traced
  have same : eventsOf action scene = events := by
    rw [eventsOf, log, List.drop_left]
  rw [NeverRelocks, NoDeviceError, same]
  constructor
  · rintro ⟨inOrder, -⟩
    by_contra fault
    exact inOrder (traced.faulty (by simpa using fault)).1
  · intro quiet
    obtain ⟨inOrder, moving, -⟩ := traced.clean quiet
    exact ⟨by simp [inOrder], moving⟩

theorem DeviceOp.call_disciplined (op : DeviceOp) (notReport : op ≠ .getError) :
    Disciplined NoDevice (op.call tb hid) := by
  cases op with
  | «open» => exact .map (HidppDevice.open_disciplined hid) _
  | close => exact HidppDevice.close_disciplined hid
  | write data => exact .map (HidppDevice.write_disciplined hid data) _
  | read out readLen => exact .map (HidppDevice.read_disciplined tb hid out readLen) _
  | readRaw hasOut readLen => exact .map (HidppDevice.readRaw_disciplined hid hasOut readLen) _
  | readBack out seq readLen =>
      exact .map (HidppDevice.readBack_disciplined tb hid out seq readLen) _
  | getError => exact absurd rfl notReport

/-- `getError` reports an error with the mutex taken once. -/
theorem getError_neverRelocks {dev : HidppDevice} {world : World σ} (idle : world.held = []) :
    NeverRelocks (DeviceOp.getError.call tb hid) ⟨dev, world⟩ := by
  have free : dev.mDevLock ∉ world.held := World.free_of_idle idle _
  obtain ⟨text, ran⟩ := HidppDevice.getDevError_run hid free
  rw [NeverRelocks, eventsOf, DeviceOp.call, Action.run_map, HidppDevice.getError, ran]
  refine ⟨?_, by simp [Blocked]⟩
  dsimp only [World.extend]
  rw [List.drop_left]
  cases dev.mDev with
  | none => simp [lockStep]
  | some handle => simp [lockStep]

theorem WalletOp.call_disciplined (op : WalletOp) :
    Disciplined NanosWallet.NoMutex (op.call tb hid) := by
  cases op with
  | init productId => exact .map (NanosWallet.init_disciplined tb hid productId) _
  | initExt productId => exact .map (NanosWallet.initExt_disciplined tb hid productId) _
  | initRoot => exact .map (NanosWallet.initRoot_disciplined tb hid) _
  | initExtRoot => exact .map (NanosWallet.initExtRoot_disciplined tb hid) _
  | reopenWithApp productId =>
      exact .map (NanosWallet.reopenWithApp_disciplined tb hid productId) _
  | close => exact (NanosWallet.close_disciplined hid).mono NanosWallet.noDevice_of_noMutex
  | exchange retries apdu resCode =>
      exact .map (NanosWallet.exchange_disciplined tb hid retries apdu resCode) _
  | getAddress retries deriveIndex silent =>
      exact .map (NanosWallet.getAddress_disciplined tb hid retries deriveIndex silent) _
  | signTx retries rawTx deriveIndex =>
      exact .map (NanosWallet.signTx_disciplined tb hid retries rawTx deriveIndex) _
  | getAppVersion retries => exact .map (NanosWallet.getAppVersion_disciplined tb hid retries) _
  | getAppList retries => exact .map (NanosWallet.getAppList_disciplined tb hid retries) _
  | runApp retries name => exact .map (NanosWallet.runApp_disciplined tb hid retries name) _
  | getOpenedAppPid => exact .map (NanosWallet.getOpenedAppPid_disciplined hid) _

/-- A public call takes a mutex that it holds exactly if `hid_error` reports an
error after one of its reads; `getError` never does. -/
theorem public_call_never_relocks_iff :
    (∀ (op : DeviceOp) (scene : Scene HidppDevice σ), scene.world.held = [] →
      (NeverRelocks (op.call tb hid) scene ↔
        op = .getError ∨ NoDeviceError (op.call tb hid) scene)) ∧
    (∀ (apdu : Apdu) (statusCode : Option UInt16) (scene : Scene FrameIoApdu σ),
      scene.world.held = [] →
      (NeverRelocks (FrameIoApdu.exchange tb hid apdu statusCode) scene ↔
        NoDeviceError (FrameIoApdu.exchange tb hid apdu statusCode) scene)) ∧
    (∀ (op : WalletOp) (scene : Scene NanosWallet σ), WalletReachable tb hid scene →
      (NeverRelocks (op.call tb hid) scene ↔ NoDeviceError (op.call tb hid) scene)) ∧
    (∀ scene : Scene NanosWallet σ, WalletReachable tb hid scene →
      (NeverRelocks (NanosWallet.destroy hid) scene ↔
        NoDeviceError (NanosWallet.destroy hid) scene)) := by
  refine ⟨?_, ?_, ?_, ?_⟩
  · intro op scene idle
    by_cases report : op = .getError
    · rw [report]
      simp [getError_neverRelocks tb hid idle]
    · have free : NoDevice scene.world.held := by
        rw [idle]
        exact noDevice_nil
      rw [(op.call_disciplined tb hid report scene free).neverRelocks_iff idle]
      simp [report]
  · intro apdu statusCode scene idle
    have free : NoDevice scene.world.held := by
      rw [idle]
      exact noDevice_nil
    exact (FrameIoApdu.exchange_disciplined tb hid apdu statusCode scene free).neverRelocks_iff
      idle
  · intro op scene reached
    have idle := reached.settled.idle
    exact (op.call_disciplined tb hid scene idle).neverRelocks_iff idle
  · intro scene reached
    have idle := reached.settled.idle
    exact (NanosWallet.destroy_disciplined hid scene
      (NanosWallet.noDevice_of_noMutex _ idle)).neverRelocks_iff idle

end Calls

theorem public_call_never_relocks_of_new :
    NeverRelocks (WalletOp.getOpenedAppPid.call Toolbox.reference Script.device)
      (NanosWallet.first (.attachedWith [])) ↔
    NoDeviceError (WalletOp.getOpenedAppPid.call Toolbox.reference Script.device)
      (NanosWallet.first (.attachedWith [])) :=
  (public_call_never_relocks_iff Toolbox.reference Script.device).2.2.1 .getOpenedAppPid _
    (NanosWallet.first_reachable _)

/-- A read of `get_app_version` meets an error of the device, and the call waits
for the mutex that the read holds. -/
theorem get_app_version_relocks :
    ¬ ∀ (tb : Toolbox) (hid : Hidapi Script) (op : WalletOp) (scene : Scene NanosWallet Script),
      WalletReachable tb hid scene → NeverRelocks (op.call tb hid) scene := by
  intro never
  let unplugged : Script :=
    .attachedWith [{ res := -1, data := [], error := some "Device disconnected" }]
  have reached := (NanosWallet.first_reachable unplugged).step (.init nanosPid) trivial
    (by decide +kernel)
  refine (never Toolbox.reference Script.device (.getAppVersion 0) _ reached).2
    ⟨.device 1, ?_⟩
  decide +kernel

end MhWallet
