import MhWallet.Effect.Ledger
import MhWallet.Effect.Within
import MhWallet.Wallet.Connection

/-!
Contract: how each member function accounts for the device handle of its
object.

Owns: the use that an event makes of a handle, and the relation between two
scenes in which the handles of all other objects stay as they are.

Does not own: which objects exist.
-/

namespace MhWallet

open MhWallet.Effect MhWallet.Method

/-- What an event does to a handle. -/
def Event.use? : Event → Option Use
  | .hidOpen _ _ (some handle) => some (.acquire handle)
  | .hidOpenPath _ (some handle) => some (.acquire handle)
  | .hidSetNonblocking handle => some (.use handle)
  | .hidClose handle => some (.release handle)
  | .hidWrite (some handle) _ => some (.use handle)
  | .hidRead (some handle) _ => some (.use handle)
  | .hidError handle _ => some (.use handle)
  | _ => none

def uses (events : List Event) : List Use := events.filterMap Event.use?

theorem uses_append (first second : List Event) :
    uses (first ++ second) = uses first ++ uses second :=
  List.filterMap_append

/-- An object that holds at most one device handle. -/
class Holder (O : Type) where
  handle : O → Option Handle

instance : Holder HidppDevice := ⟨HidppDevice.mDev⟩
instance : Holder FrameIo := ⟨fun framer => framer.mIo.mDev⟩
instance : Holder FrameIoApdu := ⟨fun framer => framer.mIo.mDev⟩
instance : Holder NanosWallet := ⟨fun wallet => wallet.mFramer.mIo.mDev⟩

/-- The handle of an object, as a collection. -/
def handles (handle : Option Handle) : Multiset Handle :=
  handle.elim 0 fun handle => {handle}

@[simp] theorem handles_none : handles none = 0 := rfl
@[simp] theorem handles_some (handle : Handle) : handles (some handle) = {handle} := rfl

/-- From one scene to another the object may give up its handle and get another
one; the handles of other objects stay live, and the handles in `leaked` stay
live without an object. -/
def Transfers {O σ : Type} [Holder O] (leaked : Multiset Handle)
    (before after : Scene O σ) : Prop :=
  ∃ events, after.world.log = before.world.log ++ events ∧
    ∀ (ledger : Ledger) (others : Multiset Handle), ledger.issued = before.world.issued →
      ledger.live = handles (Holder.handle before.self) + others →
      ∃ reached, ledger.run (uses events) = some reached ∧
        reached.issued = after.world.issued ∧
        reached.live = handles (Holder.handle after.self) + (leaked + others)

namespace Transfers

variable {O P σ : Type} [Holder O] [Holder P] {leaked more : Multiset Handle}
  {before middle after : Scene O σ}

theorem trans (first : Transfers leaked before middle) (second : Transfers more middle after) :
    Transfers (more + leaked) before after := by
  obtain ⟨events, log, accounts⟩ := first
  obtain ⟨later, laterLog, laterAccounts⟩ := second
  refine ⟨events ++ later, by rw [laterLog, log, List.append_assoc], ?_⟩
  intro ledger others issued live
  obtain ⟨next, ran, nextIssued, nextLive⟩ := accounts ledger others issued live
  obtain ⟨reached, laterRan, reachedIssued, reachedLive⟩ :=
    laterAccounts next (leaked + others) nextIssued nextLive
  refine ⟨reached, ?_, reachedIssued, ?_⟩
  · rw [uses_append, Ledger.run_append_some ran, laterRan]
  · rw [reachedLive, Multiset.add_assoc]

/-- Events that only use the handle of the object. -/
theorem ofUses (events : List Event) (log : after.world.log = before.world.log ++ events)
    (issued : after.world.issued = before.world.issued)
    (same : Holder.handle after.self = Holder.handle before.self)
    (own : ∀ use ∈ uses events, ∃ handle, Holder.handle before.self = some handle ∧
      use = .use handle) : Transfers 0 before after := by
  refine ⟨events, log, ?_⟩
  intro ledger others startIssued live
  have allLive : ∀ use ∈ uses events, ∃ handle ∈ ledger.live, use = .use handle := by
    intro use member
    obtain ⟨handle, holds, rfl⟩ := own use member
    refine ⟨handle, ?_, rfl⟩
    rw [live, holds]
    simp
  exact ⟨ledger, Ledger.run_of_uses allLive, by rw [startIssued, issued],
    by rw [same, live, Multiset.zero_add]⟩

/-- Events that do not touch any handle. -/
theorem ofQuiet (events : List Event) (log : after.world.log = before.world.log ++ events)
    (issued : after.world.issued = before.world.issued)
    (same : Holder.handle after.self = Holder.handle before.self)
    (quiet : uses events = []) : Transfers 0 before after :=
  ofUses events log issued same (by rw [quiet]; simp)

theorem refl (scene : Scene O σ) : Transfers 0 scene scene :=
  ofQuiet [] (by simp) rfl rfl rfl

theorem walk : Action.Walk (Transfers 0 : Scene O σ → Scene O σ → Prop) where
  stay := refl
  go first second := by
    have both := first.trans second
    rwa [Multiset.add_zero] at both

/-- The object releases its handle. -/
theorem ofRelease {handle : Handle} (events : List Event)
    (log : after.world.log = before.world.log ++ events)
    (issued : after.world.issued = before.world.issued)
    (had : Holder.handle before.self = some handle)
    (has : Holder.handle after.self = none)
    (released : uses events = [.release handle]) : Transfers 0 before after := by
  refine ⟨events, log, ?_⟩
  intro ledger others startIssued live
  have held : handle ∈ ledger.live := by
    rw [live, had]
    simp
  obtain ⟨next, stepped, nextIssued, nextLive⟩ := Ledger.step_release held
  refine ⟨next, ?_, by rw [nextIssued, startIssued, issued], ?_⟩
  · rw [released, Ledger.run_cons, stepped]
    rfl
  · rw [nextLive, live, had, has]
    simp

/-- The object gets a new handle; the one it had has no object any more. -/
theorem ofAcquire (events : List Event) (log : after.world.log = before.world.log ++ events)
    (issued : after.world.issued = before.world.issued + 1)
    (has : Holder.handle after.self = some before.world.issued)
    (acquired : uses events = [.acquire before.world.issued, .use before.world.issued]) :
    Transfers (handles (Holder.handle before.self)) before after := by
  refine ⟨events, log, ?_⟩
  intro ledger others startIssued live
  obtain ⟨next, stepped, nextIssued, nextLive⟩ := Ledger.step_acquire ledger
  rw [startIssued] at stepped nextIssued nextLive
  have held : before.world.issued ∈ next.live := by
    rw [nextLive]
    exact Multiset.mem_cons_self _ _
  refine ⟨next, ?_, by rw [nextIssued, issued], ?_⟩
  · rw [acquired, Ledger.run_cons, stepped, Option.bind_some, Ledger.run_cons,
      Ledger.step_use held]
    rfl
  · rw [nextLive, live, has, handles_some, Multiset.singleton_add]

/-- The object gives up its handle without closing it. -/
theorem ofDrop (events : List Event) (log : after.world.log = before.world.log ++ events)
    (issued : after.world.issued = before.world.issued)
    (has : Holder.handle after.self = none) (quiet : uses events = []) :
    Transfers (handles (Holder.handle before.self)) before after := by
  refine ⟨events, log, ?_⟩
  intro ledger others startIssued live
  refine ⟨ledger, by rw [quiet]; rfl, by rw [startIssued, issued], ?_⟩
  rw [live, has, handles_none, Multiset.zero_add]

/-- The same movement, seen from an object around it. -/
theorem lift {outer : Scene P σ} {moved : P}
    (transfers : Transfers leaked before after)
    (had : Holder.handle outer.self = Holder.handle before.self)
    (has : Holder.handle moved = Holder.handle after.self)
    (world : outer.world = before.world) :
    Transfers leaked outer ⟨moved, after.world⟩ := by
  obtain ⟨events, log, accounts⟩ := transfers
  refine ⟨events, by rw [log, world], ?_⟩
  intro ledger others issued live
  obtain ⟨reached, ran, reachedIssued, reachedLive⟩ :=
    accounts ledger others (by rw [issued, world]) (by rw [live, had])
  exact ⟨reached, ran, reachedIssued, by rw [reachedLive, has]⟩

/-- A scoped lock adds events that touch no handle. -/
theorem withLock {α : Type} {mutex : Mutex} {object : O} {world : World σ}
    {body : Method O σ α} (free : mutex ∉ world.held)
    (inner : Transfers leaked ⟨object, world.acquire mutex⟩
      (body.run ⟨object, world.acquire mutex⟩).2) :
    Transfers leaked ⟨object, world⟩ ((withLock mutex body).run ⟨object, world⟩).2 := by
  have entered : Transfers 0 (⟨object, world⟩ : Scene O σ) ⟨object, world.acquire mutex⟩ :=
    ofQuiet [.lock mutex] rfl rfl rfl rfl
  have through := entered.trans inner
  rw [Multiset.add_zero] at through
  rw [run_withLock_eq free object body]
  dsimp only
  split
  · have left : Transfers 0 (body.run ⟨object, world.acquire mutex⟩).2
        ⟨(body.run ⟨object, world.acquire mutex⟩).2.self,
          (body.run ⟨object, world.acquire mutex⟩).2.world.release mutex⟩ :=
      ofQuiet [.unlock mutex] rfl rfl rfl rfl
    have out := through.trans left
    rwa [Multiset.zero_add] at out
  · exact through

end Transfers

/-- Every run of the action accounts for the handle of the object. -/
abbrev Conserving {O σ α : Type} [Holder O] (action : Method O σ α) : Prop :=
  Action.Within (fun _ => True) (Transfers 0) action

theorem Conserving.transfers {O σ α : Type} [Holder O] {action : Method O σ α}
    (conserving : Conserving action) (scene : Scene O σ) :
    Transfers 0 scene (action.run scene).2 := by
  apply conserving scene
  cases (action.run scene).1 <;> trivial

namespace Conserving

variable {O P σ α β : Type} [Holder O] [Holder P]

theorem bind {first : Method O σ α} {next : α → Method O σ β} (firstPart : Conserving first)
    (nextPart : ∀ value, Conserving (next value)) : Conserving (first >>= next) :=
  Action.Within.bind Transfers.walk firstPart nextPart

theorem map {action : Method O σ α} (conserving : Conserving action) (change : α → β) :
    Conserving (change <$> action) :=
  Action.Within.map Transfers.walk conserving change

theorem pure (value : α) : Conserving (Pure.pure value : Method O σ α) :=
  Action.Within.pure Transfers.walk value

theorem stop (reason : Stop) : Conserving (Action.stop reason : Method O σ α) :=
  Action.Within.stop Transfers.walk reason

theorem throw (exception : Exception) : Conserving (throw exception : Method O σ α) :=
  stop _

theorem self : Conserving (self : Method O σ O) :=
  Action.Within.still Transfers.walk fun _ => rfl

theorem orOutOfRange (value : Option α) : Conserving (orOutOfRange value : Method O σ α) :=
  Action.Within.ofOption Transfers.walk _ value

theorem updateSelf {change : O → O}
    (same : ∀ object, Holder.handle (change object) = Holder.handle object) :
    Conserving (updateSelf change : Method O σ Unit) :=
  fun scene _ => .ofQuiet [] (by simp) rfl (same scene.self) rfl

/-- A call on a member that holds the handle of the object. -/
theorem onMember {lens : Lens O P} {inner : Method P σ α} (conserving : Conserving inner)
    (get : ∀ object, Holder.handle object = Holder.handle (lens.get object))
    (put : ∀ part object, Holder.handle (lens.put part object) = Holder.handle part) :
    Conserving (onMember lens inner) :=
  fun scene _ => (conserving.transfers ⟨lens.get scene.self, scene.world⟩).lift
    (get scene.self) (put _ scene.self) rfl

theorem withLock {mutex : Mutex} {body : Method O σ α} (conserving : Conserving body) :
    Conserving (withLock mutex body) := by
  rintro ⟨object, world⟩ _
  by_cases free : mutex ∉ world.held
  · exact Transfers.withLock free (conserving.transfers ⟨object, world.acquire mutex⟩)
  · rw [run_withLock_of_held (not_not.mp free)]
    exact .ofQuiet [.lock mutex] rfl rfl rfl rfl

end Conserving

/-! ## The device -/

namespace HidppDevice

variable {σ : Type} (tb : Toolbox) (hid : Hidapi σ) {dev : HidppDevice} {world : World σ}

/-- A call under the mutex of the device conserves its handle if it does so when
the mutex is free. -/
theorem locked_conserving {α : Type} {body : HidppDevice → Method HidppDevice σ α}
    (inner : ∀ dev world, dev.mDevLock ∉ world.held →
      Transfers 0 ⟨dev, world⟩ ((withLock dev.mDevLock (body dev)).run ⟨dev, world⟩).2) :
    Conserving (do
      let dev ← self
      withLock dev.mDevLock (body dev) : Method HidppDevice σ α) := by
  rintro ⟨dev, world⟩ _
  rw [Action.run_bind, run_self]
  dsimp only
  by_cases free : dev.mDevLock ∉ world.held
  · exact inner dev world free
  · rw [run_withLock_of_held (not_not.mp free)]
    exact .ofQuiet [.lock dev.mDevLock] rfl rfl rfl rfl

theorem close_transfers (free : dev.mDevLock ∉ world.held) :
    Transfers 0 ⟨dev, world⟩ ((close hid).run ⟨dev, world⟩).2 := by
  rw [close_run hid free]
  rcases device : dev.mDev with _ | handle
  · exact .ofQuiet _ rfl rfl rfl rfl
  · exact .ofRelease _ rfl rfl device rfl rfl

theorem close_conserving : Conserving (close hid) :=
  locked_conserving fun _ _ free => close_transfers hid free

/-- Events of a live device that use its handle only. -/
theorem transfers_of_uses {after : World σ} {handle : Handle} (live : dev.mDev = some handle)
    (events : List Event) (log : after.log = world.log ++ events)
    (issued : after.issued = world.issued)
    (own : ∀ use ∈ uses events, use = .use handle) :
    Transfers 0 ⟨dev, world⟩ (⟨dev, after⟩ : Scene HidppDevice σ) :=
  .ofUses events log issued rfl fun use member => ⟨handle, live, own use member⟩

theorem write_conserving (data : Bytes) : Conserving (write hid data) := by
  have transfers : ∀ (dev : HidppDevice) (world : World σ), dev.mDevLock ∉ world.held →
      Transfers 0 ⟨dev, world⟩ ((write hid data).run ⟨dev, world⟩).2 := by
    intro dev world free
    rcases device : dev.mDev with _ | handle
    · rw [write_run_of_null hid device free]
      refine .ofQuiet [.lock dev.mDevLock, .hidWrite none data] ?_ rfl rfl rfl
      simp [World.acquire, World.record]
    · rw [write_run hid device free]
      exact transfers_of_uses device _ rfl rfl (by simp [uses, Event.use?])
  exact locked_conserving transfers

/-- A read on the handle of the device, as part of a call. -/
theorem hidRead_transfers (dev : HidppDevice) (world : World σ) (readLen : Nat) :
    Transfers 0 ⟨dev, world⟩ ((hid.hidRead dev.mDev readLen).run ⟨dev, world⟩).2 := by
  rcases device : dev.mDev with _ | handle
  · exact .ofQuiet [.hidRead none none] rfl rfl rfl rfl
  · have ran : ((hid.hidRead (some handle) readLen).run ⟨dev, world⟩).2 =
        ⟨dev, { world with env := (hid.read handle readLen world.env).2 }.record
          (.hidRead (some handle) (hid.read handle readLen world.env).1)⟩ := by
      simp only [Hidapi.hidRead, Action.run_bind, run_onWorld, Action.run_ofOption]
      cases (hid.read handle readLen world.env).1 <;> rfl
    rw [ran]
    exact transfers_of_uses device _ rfl rfl (by simp [uses, Event.use?])

theorem readRaw_conserving (hasOut : Bool) (readLen : Nat) :
    Conserving (readRaw hid hasOut readLen) := by
  unfold readRaw
  cases hasOut with
  | false => exact .throw _
  | true =>
      refine locked_conserving fun dev world free => Transfers.withLock free ?_
      have transfers := hidRead_transfers hid dev (world.acquire dev.mDevLock) readLen
      rw [← Action.run_map_state fun result => (toSizeT result.res, result.data.take readLen)]
        at transfers
      exact transfers

theorem checkedRead_conserving {α : Type} (readLen : Nat) (failed : α)
    (returned : ReadResult → α) : Conserving (checkedRead hid readLen failed returned) := by
  have transfers : ∀ (dev : HidppDevice) (world : World σ), dev.mDevLock ∉ world.held →
      Transfers 0 ⟨dev, world⟩
        ((checkedRead hid readLen failed returned).run ⟨dev, world⟩).2 := by
    intro dev world free
    rcases device : dev.mDev with _ | handle
    · rw [checkedRead_run_of_null hid device free]
      refine .ofQuiet [.lock dev.mDevLock, .hidRead none none] ?_ rfl rfl rfl
      simp [World.acquire, World.record]
    · rw [checkedRead_run hid device free]
      rcases hid.read handle readLen world.env with ⟨_ | result, env⟩
      · exact transfers_of_uses device _ rfl rfl (by simp [uses, Event.use?])
      · rcases failure : result.error with _ | message
        · simp only [World.afterRead, failure]
          exact transfers_of_uses device _ rfl rfl (by simp [uses, Event.use?])
        · simp only [World.afterRead, failure]
          exact transfers_of_uses device _ rfl rfl (by simp [uses, Event.use?])
  exact locked_conserving transfers

theorem read_conserving (out : Bytes) (readLen : Nat) :
    Conserving (read tb hid out readLen) := by
  rw [read_eq]
  exact checkedRead_conserving hid _ _ _

theorem readBack_conserving (out : Bytes) (seq readLen : Nat) :
    Conserving (readBack tb hid out seq readLen) := by
  rw [readBack_eq]
  exact .map (checkedRead_conserving hid _ _ _) _

theorem getError_conserving : Conserving (getError hid) := by
  have transfers : ∀ (dev : HidppDevice) (world : World σ), dev.mDevLock ∉ world.held →
      Transfers 0 ⟨dev, world⟩ ((getDevError hid).run ⟨dev, world⟩).2 := by
    intro dev world free
    obtain ⟨text, ran⟩ := getDevError_run hid free
    rw [ran]
    rcases device : dev.mDev with _ | handle
    · exact .ofQuiet _ rfl rfl rfl rfl
    · exact transfers_of_uses device _ rfl rfl (by simp [uses, Event.use?])
  exact locked_conserving transfers

theorem uses_openEvents (opened : Option Handle) :
    uses (dev.openEvents opened) =
      opened.elim [] fun handle => [.acquire handle, .use handle] := by
  rw [openEvents, openEvent]
  split <;> cases opened <;> rfl

/-- An open gives up the handle that the device had. -/
theorem afterOpen_transfers (dev : HidppDevice) (world : World σ) :
    Transfers (handles dev.mDev) ⟨dev, world⟩
      (⟨{ dev with mDev := world.newHandle (dev.openAnswer hid world.env).1 },
        dev.afterOpen hid world⟩ : Scene HidppDevice σ) := by
  have events := @uses_openEvents dev
    (world.newHandle (dev.openAnswer hid world.env).1)
  rcases answer : (dev.openAnswer hid world.env).1 with _ | _
  · rw [answer] at events
    refine .ofDrop _ (afterOpen_log ..) ?_ rfl ?_
    · simp [afterOpen, answer]
    · rw [answer, events]
      rfl
  · rw [answer] at events
    refine .ofAcquire _ (afterOpen_log ..) ?_ rfl ?_
    · simp [afterOpen, answer]
    · rw [answer, events]
      rfl

theorem open_transfers (free : dev.mDevLock ∉ world.held) :
    Transfers (handles dev.mDev) ⟨dev, world⟩ ((«open» hid).run ⟨dev, world⟩).2 := by
  rw [open_run hid free]
  exact afterOpen_transfers hid dev world

end HidppDevice

end MhWallet
