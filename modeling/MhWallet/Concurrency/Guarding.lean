import MhWallet.Concurrency.Routines
import MhWallet.Wallet.Commands

/-!
Contract: what each operation does with the wallet's mutex.

`close` touches the device without the mutex.  Every other step on a device is
taken inside it, and an attempt of `exchange` stays inside it from its first step
to its last.

Owns: the phases of a call and the proof that every operation keeps to them.
-/

namespace MhWallet

open MhWallet.Effect MhWallet.Method

/-- Where a client is: outside the wallet's mutex, inside it, or inside it and in
an attempt. -/
inductive Phase where
  | outside
  | inside
  | attempting
deriving DecidableEq, Repr

/-- The phase after a step; none where the step is not allowed. -/
def Phase.advance : Phase → Label → Option Phase
  | phase, .plain => some phase
  | phase, .close => some phase
  | .outside, .lock => some .inside
  | .outside, _ => none
  | _, .unlock => some .outside
  | _, .begins => some .attempting
  | .attempting, .write => some .attempting
  | .attempting, .read => some .attempting
  | phase, .open => some phase
  | phase, .getError => some phase
  | phase, .destroy => some phase
  | _, _ => none

/-- How often the wallet's mutex is held. -/
def World.walletHolds {σ : Type} (world : World σ) : Nat := world.held.count .wallet

/-- The discipline of the wallet's mutex, for the member functions of `O`. -/
def walletProtocol (O σ : Type) : Thread.Protocol Label (Scene O σ) Phase where
  advance := Phase.advance
  moves
    | .lock, before, after => before.world.walletHolds = 0 → after.world.walletHolds = 1
    | .unlock, before, after => after.world.walletHolds = before.world.walletHolds - 1
    | _, before, after => after.world.walletHolds = before.world.walletHolds

/-! ## Actions that leave the wallet's mutex alone -/

/-- The wallet's mutex is held as before. -/
def SameHolds {O σ : Type} (before after : Scene O σ) : Prop :=
  after.world.walletHolds = before.world.walletHolds

theorem SameHolds.walk {O σ : Type} : Action.Walk (SameHolds : Scene O σ → Scene O σ → Prop) where
  stay _ := rfl
  go first second := second.trans first

/-- However the action ends, the wallet's mutex is held as before. -/
abbrev Apart {O σ α : Type} (action : Method O σ α) : Prop :=
  Action.Within (fun _ => True) SameHolds action

namespace Apart

variable {O P σ α β : Type}

theorem holds {action : Method O σ α} (apart : Apart action) (scene : Scene O σ) :
    (action.run scene).2.world.walletHolds = scene.world.walletHolds := by
  apply apart scene
  cases (action.run scene).1 <;> trivial

theorem pure (value : α) : Apart (Pure.pure value : Method O σ α) :=
  Action.Within.pure SameHolds.walk value

theorem stop (reason : Stop) : Apart (Action.stop reason : Method O σ α) :=
  Action.Within.stop SameHolds.walk reason

theorem bind {first : Method O σ α} {next : α → Method O σ β} (firstPart : Apart first)
    (nextPart : ∀ value, Apart (next value)) : Apart (first >>= next) :=
  Action.Within.bind SameHolds.walk firstPart nextPart

theorem map {action : Method O σ α} (apart : Apart action) (change : α → β) :
    Apart (change <$> action) :=
  Action.Within.map SameHolds.walk apart change

theorem self : Apart (Method.self : Method O σ O) := fun _ _ => rfl

theorem updateSelf (change : O → O) : Apart (Method.updateSelf change : Method O σ Unit) :=
  fun _ _ => rfl

theorem throw (exception : Exception) : Apart (Method.throw exception : Method O σ α) :=
  stop _

theorem ofOption (reason : Stop) (value : Option α) :
    Apart (Action.ofOption reason value : Method O σ α) :=
  Action.Within.ofOption SameHolds.walk reason value

theorem orOutOfRange (value : Option α) : Apart (Method.orOutOfRange value : Method O σ α) :=
  ofOption _ value

theorem onMember {lens : Lens O P} {inner : Method P σ α} (apart : Apart inner) :
    Apart (Method.onMember lens inner) :=
  fun scene _ => apart.holds ⟨lens.get scene.self, scene.world⟩

theorem onTemporary {temporary : P} {inner : Method P σ α} (apart : Apart inner) :
    Apart (Method.onTemporary temporary inner : Method O σ α) :=
  fun scene _ => apart.holds ⟨temporary, scene.world⟩

theorem enumerateDevices (hid : Hidapi σ) (vendorId productId : UInt16) :
    Apart (MhWallet.enumerateDevices hid vendorId productId : Method O σ _) :=
  fun _ _ => rfl

end Apart

namespace HidppDevice

variable {σ : Type} (tb : Toolbox) (hid : Hidapi σ)

/-- A call under the mutex of the device, if it is so when the mutex is free. -/
private theorem apart_of_free {α : Type} {action : Method HidppDevice σ α}
    (body : HidppDevice → Method HidppDevice σ α)
    (locks : action = do
      let dev ← self
      withLock dev.mDevLock (body dev))
    (inner : ∀ dev world, dev.mDevLock ∉ world.held →
      (action.run ⟨dev, world⟩).2.world.walletHolds = world.walletHolds) : Apart action := by
  intro ⟨dev, world⟩ _
  by_cases free : dev.mDevLock ∉ world.held
  · exact inner dev world free
  · have blocked : action.run ⟨dev, world⟩ =
        (withLock dev.mDevLock (body dev)).run ⟨dev, world⟩ := by
      rw [locks]
      rfl
    rw [blocked, run_withLock_of_held (not_not.mp free)]
    rfl

/-- The mutex of a device is not the wallet's. -/
private theorem walletHolds_cons (dev : HidppDevice) (world : World σ) :
    ({ world with held := dev.mDevLock :: world.held } : World σ).walletHolds =
      world.walletHolds :=
  List.count_cons_of_ne (by simp [mDevLock])

theorem open_apart : Apart («open» hid) := by
  refine apart_of_free _ rfl fun dev world free => ?_
  rw [open_run hid free]
  rfl

theorem close_apart : Apart (close hid) := by
  refine apart_of_free _ rfl fun dev world free => ?_
  rw [close_run hid free]
  cases dev.mDev <;> rfl

theorem getDevError_apart : Apart (getDevError hid) := by
  refine apart_of_free _ rfl fun dev world free => ?_
  obtain ⟨text, ran⟩ := getDevError_run hid free
  rw [ran]
  rfl

theorem write_apart (data : Bytes) : Apart (write hid data) := by
  refine apart_of_free _ rfl fun dev world free => ?_
  cases device : dev.mDev with
  | none =>
      rw [write_run_of_null hid device free]
      exact walletHolds_cons dev world
  | some handle =>
      rw [write_run hid device free]
      rfl

theorem read_apart (out : Bytes) (readLen : Nat) : Apart (read tb hid out readLen) := by
  refine apart_of_free _ rfl fun dev world free => ?_
  cases device : dev.mDev with
  | none =>
      rw [read_eq, checkedRead_run_of_null hid device free]
      exact walletHolds_cons dev world
  | some handle =>
      rw [read_run tb hid device free]
      rcases hid.read handle readLen world.env with ⟨_ | result, env⟩
      · exact walletHolds_cons dev world
      · dsimp only
        unfold World.afterRead
        cases result.error with
        | none => rfl
        | some message => exact walletHolds_cons dev world

end HidppDevice

theorem FrameIo.accept_apart {σ : Type} (tb : Toolbox) (out : Bytes) :
    Apart (FrameIo.accept tb out : Method FrameIo σ (Nat × Bytes)) := by
  refine .bind .self fun framer => .bind (.orOutOfRange _) fun channelId =>
    .bind (.orOutOfRange _) fun commandTag => .bind (.orOutOfRange _) fun cseq => ?_
  split
  · exact .throw _
  · split
    · exact .throw _
    · split
      · exact .throw _
      · exact .bind (.orOutOfRange _) fun content => .bind (.updateSelf _) fun _ => .pure _

theorem FrameIoApdu.conclude_apart {σ : Type} (tb : Toolbox) (respLen : UInt16) (buffer : Bytes)
    (statusCode : Option UInt16) :
    Apart (FrameIoApdu.conclude tb respLen buffer statusCode : Method FrameIoApdu σ _) := by
  unfold FrameIoApdu.conclude
  split
  · refine .bind (.orOutOfRange _) fun resp => .bind (.orOutOfRange _) fun respCode => ?_
    cases statusCode with
    | none => exact .bind (.pure _) fun _ => .bind (.updateSelf _) fun _ => .pure _
    | some status =>
        exact .bind (.map (.orOutOfRange _) _) fun _ => .bind (.updateSelf _) fun _ => .pure _
  · exact .bind (.updateSelf _) fun _ => .pure _

/-! ## Routines that stay where they are -/

/-- In every phase of the set the routine does allowed steps only, and stays in the
set. -/
abbrev Remains {O σ α : Type} (set : Phase → Prop) (routine : Routine O σ α) : Prop :=
  Thread.Stays (walletProtocol O σ) set routine

namespace Remains

variable {O P σ α β : Type} {set : Phase → Prop}

theorem pure (value : α) : Remains set (Pure.pure value : Routine O σ α) :=
  Thread.Stays.pure value

theorem bind {first : Routine O σ α} {next : α → Routine O σ β} (remains : Remains set first)
    (continues : ∀ value, Remains set (next value)) : Remains set (first >>= next) :=
  Thread.Stays.bind remains continues

/-- A step that takes no mutex but that of a device. -/
theorem step {label : Label} {action : Method O σ α} (apart : Apart action)
    (device : label ≠ .lock ∧ label ≠ .unlock)
    (allowed : ∀ phase, set phase → ∃ after, phase.advance label = some after ∧ set after) :
    Remains set (Thread.atomic label action) := by
  apply Thread.Stays.atomic _ allowed
  intro scene
  cases label with
  | lock => exact absurd rfl device.1
  | unlock => exact absurd rfl device.2
  | _ => exact apart.holds scene

theorem plain {action : Method O σ α} (apart : Apart action) :
    Remains set (Routine.plain action) :=
  step apart (by decide) fun phase inSet => ⟨phase, by cases phase <;> rfl, inSet⟩

theorem onMember {lens : Lens O P} {inner : Routine P σ α} (remains : Remains set inner) :
    Remains set (Routine.onMember lens inner) :=
  .focus remains rfl fun label _ _ moved => by cases label <;> exact moved

end Remains

/-- Inside the wallet's mutex. -/
def Phase.Inside (phase : Phase) : Prop := phase ≠ .outside

/-- Inside an attempt. -/
def Phase.Attempting (phase : Phase) : Prop := phase = .attempting

namespace FrameIo

variable {σ : Type} (tb : Toolbox) (hid : Hidapi σ)

theorem readRoutine_remains (out : Bytes) :
    Remains Phase.Attempting (readRoutine tb hid out) := by
  refine .bind (.plain .self) fun framer => .bind ?_ fun answer =>
    .bind (.plain (.updateSelf _)) fun _ => ?_
  · exact .step (.onMember (HidppDevice.read_apart tb hid _ _)) (by decide)
      fun phase attempting => ⟨phase, by rw [attempting]; rfl, attempting⟩
  · split
    · exact .pure _
    · exact .plain (accept_apart tb out)

theorem writeLoopRoutine_remains (rounds : Nat) (buffer chunk : Bytes) (cseq : UInt16) :
    Remains Phase.Attempting (writeLoopRoutine tb hid rounds buffer chunk cseq) := by
  induction rounds generalizing buffer chunk cseq with
  | zero =>
      unfold writeLoopRoutine
      split
      · exact .pure _
      · exact .plain (.stop _)
  | succ rounds inductionHypothesis =>
      unfold writeLoopRoutine
      split
      · exact .pure _
      · refine .bind (.plain (.orOutOfRange _)) fun toUsb => .bind ?_ fun _ =>
          inductionHypothesis _ _ _
        exact .step (.onMember (HidppDevice.write_apart hid _)) (by decide)
          fun phase attempting => ⟨phase, by rw [attempting]; rfl, attempting⟩

theorem writeRoutine_remains (apdu : Apdu) :
    Remains Phase.Attempting (writeRoutine tb hid apdu) :=
  .bind (writeLoopRoutine_remains tb hid _ _ _ _) fun _ => .pure _

end FrameIo

namespace FrameIoApdu

variable {σ : Type} (tb : Toolbox) (hid : Hidapi σ)

theorem readMoreRoutine_remains (buffer : Bytes) :
    Remains Phase.Attempting (readMoreRoutine tb hid buffer) :=
  .bind (.onMember (FrameIo.readRoutine_remains tb hid buffer)) fun _ =>
    .bind (.plain (.updateSelf _)) fun _ => .pure _

theorem readRestRoutine_remains (respLen : UInt16) (rounds : Nat) (buffer : Bytes) :
    Remains Phase.Attempting (readRestRoutine tb hid respLen rounds buffer) := by
  induction rounds generalizing buffer with
  | zero =>
      unfold readRestRoutine
      refine .bind (.plain .self) fun framer => ?_
      split
      · exact .plain (.stop _)
      · exact .pure _
  | succ rounds inductionHypothesis =>
      unfold readRestRoutine
      refine .bind (.plain .self) fun framer => ?_
      split
      · exact .bind (readMoreRoutine_remains tb hid buffer) fun buffer =>
          inductionHypothesis buffer
      · exact .pure _

theorem exchangeRoutine_remains (apdu : Apdu) (statusCode : Option UInt16) :
    Remains Phase.Attempting (exchangeRoutine tb hid apdu statusCode) := by
  unfold exchangeRoutine
  split
  · exact .plain (.throw _)
  · exact .bind (.plain (.onMember (.updateSelf _))) fun _ =>
      .bind (.onMember (FrameIo.writeRoutine_remains tb hid apdu)) fun _ =>
        .bind (readMoreRoutine_remains tb hid _) fun _ =>
          .bind (.plain (.orOutOfRange _)) fun _ =>
            .bind (readRestRoutine_remains tb hid _ _ _) fun _ =>
              .plain (conclude_apart tb _ _ _)

end FrameIoApdu

namespace NanosWallet

variable {σ : Type} (tb : Toolbox) (hid : Hidapi σ) {set : Phase → Prop}

/-- A step that is allowed everywhere inside the mutex. -/
private theorem inside_remains {O α : Type} {label : Label} {action : Method O σ α}
    (apart : Apart action) (device : label = .open ∨ label = .getError ∨ label = .destroy) :
    Remains Phase.Inside (Thread.atomic label action) := by
  apply Remains.step apart
  · rcases device with rfl | rfl | rfl <;> decide
  · intro phase inside
    refine ⟨phase, ?_, inside⟩
    rcases device with rfl | rfl | rfl <;> cases phase <;> first | rfl | exact absurd rfl inside

theorem openStep_remains : Remains Phase.Inside (deviceStep .open (HidppDevice.open hid)) :=
  inside_remains (.onMember (HidppDevice.open_apart hid)) (.inl rfl)

/-- `close` is allowed in every phase. -/
theorem closeStep_remains : Remains set (deviceStep .close (HidppDevice.close hid)) :=
  .step (.onMember (HidppDevice.close_apart hid)) (by decide)
    fun phase inSet => ⟨phase, by cases phase <;> rfl, inSet⟩

theorem setValid_apart (mValid : Bool) : Apart (setValid mValid : Method NanosWallet σ Unit) :=
  .updateSelf _

theorem closeRoutine_remains : Remains set (closeRoutine hid) := by
  refine .bind (.plain .self) fun wallet => ?_
  dsimp only
  split
  · exact .bind (closeStep_remains hid) fun _ => .plain (setValid_apart _)
  · exact .plain (setValid_apart _)

theorem assignFramerRoutine_remains (vendorId productId : UInt16) :
    Remains Phase.Inside (assignFramerRoutine tb hid vendorId productId) := by
  have destroyed : ∀ dev : HidppDevice, Remains Phase.Inside (Thread.atomic .destroy
      (onTemporary dev (HidppDevice.destroy hid) : Method NanosWallet σ Unit)) :=
    fun dev => inside_remains (.onTemporary (HidppDevice.close_apart hid)) (.inr (.inr rfl))
  exact .bind (.plain fun _ _ => rfl) fun device => .bind (.plain fun _ _ => rfl) fun converted =>
    .bind (.plain (.updateSelf _)) fun _ => .bind (destroyed _) fun _ => destroyed _

theorem reportOpenFailureRoutine_remains : Remains Phase.Inside (reportOpenFailureRoutine hid) :=
  .bind (inside_remains (.onMember (HidppDevice.getDevError_apart hid)) (.inr (.inl rfl)))
    fun _ => .pure _

theorem dropConnectionRoutine_remains : Remains set (dropConnectionRoutine hid) := by
  refine .bind (.plain .self) fun wallet => ?_
  split
  · exact closeRoutine_remains hid
  · exact .pure _

theorem connectRoutine_remains {α : Type} (vendorId productId : UInt16)
    {opened : Routine NanosWallet σ α} (failed : α) (remains : Remains Phase.Inside opened) :
    Remains Phase.Inside (connectRoutine tb hid vendorId productId opened failed) := by
  refine .bind (assignFramerRoutine_remains tb hid _ _) fun _ =>
    .bind (openStep_remains hid) fun accepted => ?_
  split
  · exact .bind (.plain .self) fun _ => .bind (.plain (setValid_apart _)) fun _ => remains
  · exact .bind (reportOpenFailureRoutine_remains hid) fun _ => .pure _

theorem reopenRoutine_remains : Remains Phase.Inside (reopenRoutine hid) :=
  .bind (closeStep_remains hid) fun _ =>
    .bind (openStep_remains hid) fun _ => .pure _

/-- An attempt starts anywhere inside the mutex. -/
theorem attemptRoutine_remains (apdu : Apdu) (resCode : Option UInt16) :
    Remains Phase.Inside (attemptRoutine tb hid apdu resCode) := by
  intro phase inside
  have begun : Thread.Follows (walletProtocol NanosWallet σ)
      (fun _ after => after.Attempting) phase
      (Thread.atomic .begins (pure ()) : Routine NanosWallet σ Unit) := by
    refine ⟨fun _ => rfl, .attempting, ?_, fun _ => rfl⟩
    cases phase <;> first | rfl | exact absurd rfl inside
  refine begun.andThen fun outcome after attempting => ?_
  have exchanged : Remains Phase.Attempting
      (Routine.onMember framer (FrameIoApdu.exchangeRoutine tb hid apdu resCode)) :=
    .onMember (FrameIoApdu.exchangeRoutine_remains tb hid apdu resCode)
  cases outcome with
  | ok value =>
      apply (exchanged after attempting).mono
      intro _ last attempting
      rw [attempting]
      simp [Phase.Inside]
  | error reason =>
      show after ≠ .outside
      rw [attempting]
      simp

theorem exchangeRoundRoutine_remains (apdu : Apdu) (resCode : Option UInt16)
    {again : Routine NanosWallet σ (Bytes × Option UInt16)} (next : Remains Phase.Inside again) :
    Remains Phase.Inside (exchangeRoundRoutine tb hid apdu resCode again) := by
  refine .bind (.plain .self) fun wallet => ?_
  cases wallet.mFramer.mIo.mDev with
  | none => exact .bind (.plain (setValid_apart _)) fun _ => .pure _
  | some handle =>
      apply Thread.Stays.recover (attemptRoutine_remains tb hid apdu resCode)
      intro reason following handled
      split at handled
      next =>
        rw [Option.some.injEq] at handled
        rw [← handled]
        exact .bind (reopenRoutine_remains hid) fun _ => next
      next => simp at handled

theorem exchangeLoopRoutine_remains (apdu : Apdu) (resCode : Option UInt16) (retries : Nat) :
    Remains Phase.Inside (exchangeLoopRoutine tb hid apdu resCode retries) := by
  induction retries with
  | zero => exact exchangeRoundRoutine_remains tb hid apdu resCode (.plain (.stop _))
  | succ retries inductionHypothesis =>
      exact exchangeRoundRoutine_remains tb hid apdu resCode inductionHypothesis

end NanosWallet

/-! ## Whole calls -/

/-- A call that came back is outside the mutex. -/
def Returned {α : Type} (outcome : Except Stop α) (phase : Phase) : Prop :=
  Ended outcome → phase = .outside

/-- A call that starts outside the mutex does allowed steps only, and is outside
again when it comes back. -/
abbrev Serves {σ α : Type} (routine : Routine NanosWallet σ α) : Prop :=
  Thread.Follows (walletProtocol NanosWallet σ) Returned .outside routine

namespace Serves

variable {σ α β : Type}

theorem pure (value : α) : Serves (Pure.pure value : Routine NanosWallet σ α) := fun _ => rfl

theorem bind {first : Routine NanosWallet σ α} {next : α → Routine NanosWallet σ β}
    (serves : Serves first) (continues : ∀ value, Serves (next value)) :
    Serves (first >>= next) := by
  apply Thread.Follows.andThen serves
  intro outcome after returned
  cases outcome with
  | ok value =>
      rw [show after = .outside from returned trivial]
      exact continues value
  | error reason => exact returned

theorem map {routine : Routine NanosWallet σ α} (serves : Serves routine) (change : α → β) :
    Serves (change <$> routine) :=
  bind serves fun value => pure (change value)

theorem ofRemains {routine : Routine NanosWallet σ α}
    (remains : Remains (fun phase => phase = .outside) routine) : Serves routine :=
  (remains .outside rfl).mono fun _ _ outside _ => outside

theorem plain {action : Method NanosWallet σ α} (apart : Apart action) :
    Serves (Routine.plain action) :=
  ofRemains (.plain apart)

/-- A call under the wallet's mutex. -/
theorem locked {body : Routine NanosWallet σ α} (remains : Remains Phase.Inside body) :
    Serves (Routine.locked body) := by
  -- A lock that the client holds already never returns.
  have taken : Thread.Follows (walletProtocol NanosWallet σ)
      (fun outcome after => after = .inside ∧ (Ended outcome → outcome = .ok ()))
      .outside (Thread.atomic .lock Routine.lockWallet : Routine NanosWallet σ Unit) := by
    refine ⟨?_, .inside, rfl, ?_⟩
    · intro scene unheld
      have free : Mutex.wallet ∉ scene.world.held := List.count_eq_zero.mp unheld
      unfold Routine.lockWallet
      dsimp only
      rw [if_neg free]
      show (scene.world.acquire .wallet).walletHolds = 1
      rw [World.walletHolds, World.acquire, List.count_cons_self]
      exact congrArg (· + 1) unheld
    · intro scene
      refine ⟨rfl, ?_⟩
      unfold Routine.lockWallet
      dsimp only
      split
      · exact fun ended => absurd ended id
      · exact fun _ => rfl
  apply Thread.Follows.andThen taken
  rintro outcome after ⟨inside, returns⟩
  subst inside
  cases outcome with
  | error reason => exact fun ended => absurd (returns ended) (by simp)
  | ok _ =>
      apply (remains .inside (by simp [Phase.Inside])).andThen
      intro outcome after inside
      unfold Routine.unlockWallet
      split
      · refine ⟨?_, .outside, ?_, fun _ _ => rfl⟩
        · intro scene
          exact List.count_erase_self
        · cases after <;> first | rfl | exact absurd rfl inside
      next stays => exact fun ended => absurd ended stays

end Serves

namespace NanosWallet

variable {σ : Type} (tb : Toolbox) (hid : Hidapi σ)

theorem closeRoutine_serves : Serves (closeRoutine hid) :=
  .ofRemains (closeRoutine_remains hid)

theorem initRoutine_serves (productId : UInt16) : Serves (initRoutine tb hid productId) := by
  apply Serves.locked
  refine .bind (.plain (.enumerateDevices hid _ _)) fun systemDevs =>
    .bind (.plain (.enumerateDevices hid _ _)) fun appDevs => ?_
  split
  · exact .pure _
  · cases appDevs with
    | nil => exact .pure _
    | cons device _ =>
        exact connectRoutine_remains tb hid _ _ _ (.bind (.plain .self) fun _ => .pure _)

theorem initRootRoutine_serves : Serves (initRootRoutine tb hid) := by
  apply Serves.locked
  refine .bind (.plain (.enumerateDevices hid _ _)) fun systemDevs => ?_
  cases systemDevs with
  | nil => exact .pure _
  | cons device _ =>
      exact connectRoutine_remains tb hid _ _ _ (.bind (.plain .self) fun _ => .pure _)

theorem initExtRoutine_serves (productId : UInt16) : Serves (initExtRoutine tb hid productId) := by
  apply Serves.locked
  refine .bind (.plain (.enumerateDevices hid _ _)) fun appDevs => .bind (.plain .self)
    fun wallet => ?_
  split
  · exact .pure _
  · refine .bind (dropConnectionRoutine_remains hid) fun _ =>
      .bind (.plain (.enumerateDevices hid _ _)) fun systemDevs => ?_
    split
    · exact .pure _
    · cases appDevs with
      | nil => exact .pure _
      | cons device _ => exact connectRoutine_remains tb hid _ _ _ (.pure _)

theorem initExtRootRoutine_serves : Serves (initExtRootRoutine tb hid) := by
  apply Serves.locked
  refine .bind (.plain (.enumerateDevices hid _ _)) fun systemDevs => .bind (.plain .self)
    fun wallet => ?_
  split
  · exact .pure _
  · refine .bind (dropConnectionRoutine_remains hid) fun _ => ?_
    split
    · exact .pure _
    · exact connectRoutine_remains tb hid _ _ _ (.pure _)

theorem exchangeRoutine_serves (retries : Nat) (apdu : Apdu) (resCode : Option UInt16) :
    Serves (exchangeRoutine tb hid retries apdu resCode) := by
  apply Serves.locked
  refine .bind (.plain .self) fun wallet => ?_
  split
  · exact exchangeLoopRoutine_remains tb hid apdu resCode retries
  · exact .plain (.throw _)

theorem copyPayload_apart (content : Bytes) (apdu : Apdu) :
    Apart (copyPayload content apdu : Method NanosWallet σ Apdu) :=
  copyPayload_composes (Action.Within.composes SameHolds.walk) content apdu

theorem commandRoutine_serves (retries : Nat) (apdu : Apdu) (failure : String) :
    Serves (commandRoutine tb hid retries apdu failure) := by
  refine .bind (exchangeRoutine_serves tb hid retries apdu (some codeSuccess)) fun answer => ?_
  rcases answer with ⟨response, _ | status⟩
  · exact .pure _
  · dsimp only
    split
    · exact .plain (.throw _)
    · exact .pure _

theorem pollForAppRoutine_serves (tries : Nat) (found : Bool) (pid : UInt16) :
    Serves (pollForAppRoutine hid tries found pid) := by
  induction tries generalizing found pid with
  | zero => exact .pure _
  | succ tries inductionHypothesis =>
      unfold pollForAppRoutine
      refine .bind (.plain (.enumerateDevices hid _ _)) fun devices => ?_
      dsimp only
      split
      · exact .pure _
      · exact inductionHypothesis _ _

end NanosWallet

/-- Every call keeps to the discipline. -/
theorem WalletOp.routine_serves {σ : Type} (tb : Toolbox) (hid : Hidapi σ) (op : WalletOp) :
    Serves (op.routine tb hid) := by
  cases op with
  | init productId => exact .map (NanosWallet.initRoutine_serves tb hid productId) _
  | initExt productId => exact .map (NanosWallet.initExtRoutine_serves tb hid productId) _
  | initRoot => exact .map (NanosWallet.initRootRoutine_serves tb hid) _
  | initExtRoot => exact .map (NanosWallet.initExtRootRoutine_serves tb hid) _
  | reopenWithApp productId =>
      exact .map (.bind (NanosWallet.closeRoutine_serves hid) fun _ =>
        NanosWallet.initExtRoutine_serves tb hid productId) _
  | close => exact NanosWallet.closeRoutine_serves hid
  | exchange retries apdu resCode =>
      exact .map (NanosWallet.exchangeRoutine_serves tb hid retries apdu resCode) _
  | getAddress retries deriveIndex silent =>
      exact .map (.bind (.plain (NanosWallet.copyPayload_apart _ _)) fun data =>
        .bind (NanosWallet.commandRoutine_serves tb hid retries data _) fun response =>
          .plain (.orOutOfRange _)) _
  | signTx retries rawTx deriveIndex =>
      exact .map (.bind (.plain (NanosWallet.copyPayload_apart _ _)) fun data =>
        .bind (NanosWallet.commandRoutine_serves tb hid retries data _) fun response =>
          .bind (.plain (.orOutOfRange _)) fun _ => .bind (.plain (.orOutOfRange _)) fun _ =>
            .bind (.plain (.orOutOfRange _)) fun _ => .pure _) _
  | getAppVersion retries =>
      exact .map (.bind (NanosWallet.commandRoutine_serves tb hid retries _ _) fun response =>
        .bind (.plain (.orOutOfRange _)) fun _ => .bind (.plain (.orOutOfRange _)) fun _ =>
          .bind (.plain (.orOutOfRange _)) fun _ => .pure _) _
  | getAppList retries =>
      refine .map (.bind (NanosWallet.commandRoutine_serves tb hid retries _ _)
        fun response => ?_) _
      split
      · exact .pure _
      · exact .plain (NanosWallet.parseAppList_composes
          (Action.Within.composes SameHolds.walk) response _ _ _)
  | runApp retries name =>
      exact .map (.bind (.plain (NanosWallet.copyPayload_apart _ _)) fun data =>
        .bind (NanosWallet.commandRoutine_serves tb hid retries data _) fun _ =>
          NanosWallet.pollForAppRoutine_serves hid _ _ _) _
  | getOpenedAppPid =>
      exact .map (.locked (.bind (.plain (.enumerateDevices hid _ _)) fun _ => .pure _)) _

end MhWallet
