import MhWallet.Locking
import MhWallet.Ownership.Calls

/-!
Contract: programs that create, copy, assign, use and destroy devices, framers
and wallets, and what becomes of the device handles.

The copy operations of `hidpp_device` duplicate its handle, and assignment and
`open` overwrite it.  A program in which these meet devices without a handle
only gives every handle one owner.

Owns: the objects that are alive, the operations on them, and the accounting of
all handles along a program.
-/

namespace MhWallet

open MhWallet.Effect MhWallet.Method

/-- An object that holds a device, directly or as a member. -/
inductive Owner where
  | device (dev : HidppDevice)
  | frameIo (framer : FrameIo)
  | framer (framer : FrameIoApdu)
  | wallet (wallet : NanosWallet)
deriving DecidableEq, Repr

namespace Owner

/-- The device that others can reach: the object itself, or `io()`. -/
def exposed? : Owner → Option HidppDevice
  | .device dev => some dev
  | .frameIo base => some base.mIo
  | .framer inner => some inner.mIo
  | .wallet _ => none

/-- The object with another state of that device. -/
def withExposed (dev : HidppDevice) : Owner → Owner
  | .device _ => .device dev
  | .frameIo base => .frameIo { base with mIo := dev }
  | .framer inner => .framer { inner with mIo := dev }
  | .wallet hidden => .wallet hidden

instance : Holder Owner where
  handle
    | .device dev => dev.mDev
    | .frameIo base => base.mIo.mDev
    | .framer inner => inner.mIo.mDev
    | .wallet hidden => hidden.mFramer.mIo.mDev

theorem handle_exposed {owner : Owner} {dev : HidppDevice} (exposed : owner.exposed? = some dev) :
    Holder.handle owner = dev.mDev := by
  cases owner <;> cases exposed <;> rfl

theorem handle_withExposed {owner : Owner} {dev : HidppDevice}
    (exposed : owner.exposed? = some dev) (other : HidppDevice) :
    Holder.handle (owner.withExposed other) = other.mDev := by
  cases owner <;> cases exposed <;> rfl

end Owner

/-- The objects that are alive, in a world. -/
structure Heap (σ : Type) where
  objects : List Owner
  world : World σ

/-- A step of a program.  Objects are named by their position. -/
inductive ObjectOp where
  | newDevice (vendorId productId : UInt16)
  | newDevicePath (path : String)
  | copyDevice (source : Nat)
  | newFrameIo (source : Nat)
  | newFramer (source : Nat)
  | copyFramer (source : Nat)
  | newWallet
  | assignDevice (target source : Nat)
  | assignFramer (target source : Nat)
  | callDevice (target : Nat) (op : DeviceOp)
  | callFramer (target : Nat) (apdu : Apdu) (statusCode : Option UInt16)
  | callWallet (target : Nat) (op : WalletOp)
  | destroy (target : Nat)

namespace Heap

variable {O σ : Type} (tb : Toolbox) (hid : Hidapi σ)

/-- A constructor of `O` makes a new object. -/
def create (wrap : O → Owner) (constructor : Method Unit σ O) (heap : Heap σ) :
    Option (Heap σ) :=
  match constructor.run ⟨(), heap.world⟩ with
  | (.ok object, reached) => some ⟨heap.objects ++ [wrap object], reached.world⟩
  | (.error _, _) => none

/-- A call on an object that came back. -/
def callAt {α : Type} (target : Nat) (wrap : O → Owner) (call : Method O σ α) (object : O)
    (heap : Heap σ) : Option (Heap σ) :=
  let ran := call.run ⟨object, heap.world⟩
  if Ended ran.1 then some ⟨heap.objects.set target (wrap ran.2.self), ran.2.world⟩ else none

/-- A destructor, after which the object is gone. -/
def destroyAt (target : Nat) (destructor : Method O σ Unit) (object : O) (heap : Heap σ) :
    Option (Heap σ) :=
  let ran := destructor.run ⟨object, heap.world⟩
  if Ended ran.1 then some ⟨heap.objects.eraseIdx target, ran.2.world⟩ else none

/-- The heap after a step; none if the step is no step of a program, or does not
come back. -/
def step (heap : Heap σ) : ObjectOp → Option (Heap σ)
  | .newDevice vendorId productId =>
      heap.create .device (HidppDevice.construct vendorId productId)
  | .newDevicePath path => heap.create .device (HidppDevice.constructPath path)
  | .copyDevice source => do
      let dev ← (← heap.objects[source]?).exposed?
      heap.create .device (HidppDevice.copyConstruct dev)
  | .newFrameIo source => do
      let dev ← (← heap.objects[source]?).exposed?
      heap.create .frameIo (FrameIo.construct tb dev)
  | .newFramer source => do
      let dev ← (← heap.objects[source]?).exposed?
      heap.create .framer (FrameIoApdu.construct tb dev)
  | .copyFramer source => do
      match ← heap.objects[source]? with
      | .frameIo framer =>
          heap.create .frameIo do
            return { framer with mIo := ← HidppDevice.copyConstruct framer.mIo }
      | .framer framer =>
          heap.create .framer do
            return { framer with mIo := ← HidppDevice.copyConstruct framer.mIo }
      | _ => none
  | .newWallet => heap.create .wallet (NanosWallet.construct tb hid)
  | .assignDevice target source => do
      let owner ← heap.objects[target]?
      let dev ← owner.exposed?
      let other ← (← heap.objects[source]?).exposed?
      some { heap with
        objects := heap.objects.set target (owner.withExposed (dev.assign other)) }
  | .assignFramer target source => do
      match ← heap.objects[target]?, ← heap.objects[source]? with
      | .frameIo framer, .frameIo other =>
          some { heap with objects := heap.objects.set target (.frameIo (framer.assign other)) }
      | .framer framer, .framer other =>
          some { heap with objects := heap.objects.set target (.framer (framer.assign other)) }
      | _, _ => none
  | .callDevice target op => do
      let owner ← heap.objects[target]?
      let dev ← owner.exposed?
      heap.callAt target (owner.withExposed ·) (op.call tb hid) dev
  | .callFramer target apdu statusCode => do
      match ← heap.objects[target]? with
      | .framer framer =>
          heap.callAt target .framer (FrameIoApdu.exchange tb hid apdu statusCode) framer
      | _ => none
  | .callWallet target op => do
      match ← heap.objects[target]? with
      | .wallet wallet => heap.callAt target .wallet (op.call tb hid) wallet
      | _ => none
  | .destroy target => do
      match ← heap.objects[target]? with
      | .device dev => heap.destroyAt target (HidppDevice.destroy hid) dev
      | .frameIo framer =>
          heap.destroyAt target (onMember FrameIo.io (HidppDevice.destroy hid)) framer
      | .framer framer =>
          heap.destroyAt target
            (onMember FrameIoApdu.frameIo (onMember FrameIo.io (HidppDevice.destroy hid))) framer
      | .wallet wallet => heap.destroyAt target (NanosWallet.destroy hid) wallet

end Heap

/-! ## The accounts of a heap -/

/-- The handles that objects hold. -/
def heldHandles (objects : List Owner) : Multiset Handle :=
  (objects.map fun owner => handles (Holder.handle owner)).sum

@[simp] theorem heldHandles_nil : heldHandles [] = 0 := rfl

@[simp] theorem heldHandles_cons (owner : Owner) (objects : List Owner) :
    heldHandles (owner :: objects) = handles (Holder.handle owner) + heldHandles objects := by
  simp [heldHandles]

theorem heldHandles_append (first second : List Owner) :
    heldHandles (first ++ second) = heldHandles first + heldHandles second := by
  induction first with
  | nil => simp
  | cons owner first inductionHypothesis =>
      rw [List.cons_append, heldHandles_cons, heldHandles_cons, inductionHypothesis,
        Multiset.add_assoc]

/-- The handles of one object and those of the others. -/
theorem heldHandles_at {objects : List Owner} {target : Nat} {owner : Owner}
    (present : objects[target]? = some owner) :
    ∃ others, heldHandles objects = handles (Holder.handle owner) + others ∧
      (∀ other, heldHandles (objects.set target other) =
        handles (Holder.handle other) + others) ∧
      heldHandles (objects.eraseIdx target) = others := by
  induction objects generalizing target with
  | nil => simp at present
  | cons first objects inductionHypothesis =>
      cases target with
      | zero =>
          simp only [List.getElem?_cons_zero, Option.some.injEq] at present
          subst present
          exact ⟨heldHandles objects, by simp, by simp, by simp⟩
      | succ target =>
          rw [List.getElem?_cons_succ] at present
          obtain ⟨others, total, replaced, removed⟩ := inductionHypothesis present
          have swap : ∀ some : Multiset Handle, handles (Holder.handle first) + (some + others) =
              some + (handles (Holder.handle first) + others) := by
            intro some
            rw [← Multiset.add_assoc, Multiset.add_comm _ some, Multiset.add_assoc]
          refine ⟨handles (Holder.handle first) + others, ?_, ?_, ?_⟩
          · rw [heldHandles_cons, total, swap]
          · intro other
            rw [List.set_cons_succ, heldHandles_cons, replaced, swap]
          · rw [List.eraseIdx_cons_succ, heldHandles_cons, removed]

/-- What a wallet among the objects keeps between calls. -/
def Owner.Tidy (owner : Owner) : Prop :=
  ∀ wallet, owner = .wallet wallet →
    wallet.mFramer.mBuffer.length ≤ 64 ∧ wallet.mFramer.Placed ∧ NanosWallet.Flagged wallet

namespace Heap

variable {O σ : Type} (tb : Toolbox) (hid : Hidapi σ) {heap next : Heap σ}

/-- No mutex is held, and every live handle has exactly one object. -/
structure Sound (heap : Heap σ) : Prop where
  idle : heap.world.held = []
  accounts : ∃ ledger, Ledger.empty.run (uses heap.world.log) = some ledger ∧
    ledger.issued = heap.world.issued ∧ ledger.live = heldHandles heap.objects
  tidy : ∀ owner ∈ heap.objects, owner.Tidy

theorem initial_sound (env : σ) : Sound ⟨[], .initial env⟩ :=
  ⟨rfl, ⟨.empty, rfl, rfl, rfl⟩, by simp⟩

namespace Sound

/-- A new object without a handle. -/
theorem add {owner : Owner} {world : World σ} (sound : Sound heap) (events : List Event)
    (log : world.log = heap.world.log ++ events) (quiet : uses events = [])
    (issued : world.issued = heap.world.issued) (held : world.held = heap.world.held)
    (null : Holder.handle owner = none) (tidy : owner.Tidy) :
    Sound ⟨heap.objects ++ [owner], world⟩ := by
  obtain ⟨ledger, ran, same, live⟩ := sound.accounts
  refine ⟨by rw [held, sound.idle], ⟨ledger, ?_, by rw [issued, same], ?_⟩, ?_⟩
  · rw [log, uses_append, quiet, List.append_nil, ran]
  · rw [heldHandles_append, live]
    simp [null]
  · intro other member
    rcases List.mem_append.mp member with old | new
    · exact sound.tidy other old
    · rw [List.mem_singleton.mp new]
      exact tidy

/-- One object moves on. -/
theorem replace {owner : Owner} {target : Nat} {after : Scene Owner σ} (sound : Sound heap)
    (present : heap.objects[target]? = some owner)
    (transfers : Transfers 0 ⟨owner, heap.world⟩ after) (idle : after.world.held = [])
    (tidy : after.self.Tidy) :
    Sound ⟨heap.objects.set target after.self, after.world⟩ := by
  obtain ⟨ledger, ran, issued, live⟩ := sound.accounts
  obtain ⟨others, total, replaced, _⟩ := heldHandles_at present
  obtain ⟨events, log, accounts⟩ := transfers
  obtain ⟨reached, later, reachedIssued, reachedLive⟩ :=
    accounts ledger others issued (live.trans total)
  refine ⟨idle, ⟨reached, ?_, reachedIssued, ?_⟩, ?_⟩
  · rw [log, uses_append, Ledger.run_append_some ran, later]
  · rw [reachedLive, replaced, Multiset.zero_add]
  · intro other member
    rcases List.mem_or_eq_of_mem_set member with old | rfl
    · exact sound.tidy other old
    · exact tidy

/-- One object gives up its handle and is gone. -/
theorem remove {owner : Owner} {target : Nat} {after : Scene Owner σ} (sound : Sound heap)
    (present : heap.objects[target]? = some owner)
    (transfers : Transfers 0 ⟨owner, heap.world⟩ after) (idle : after.world.held = [])
    (null : Holder.handle after.self = none) :
    Sound ⟨heap.objects.eraseIdx target, after.world⟩ := by
  obtain ⟨ledger, ran, issued, live⟩ := sound.accounts
  obtain ⟨others, total, _, removed⟩ := heldHandles_at present
  obtain ⟨events, log, accounts⟩ := transfers
  obtain ⟨reached, later, reachedIssued, reachedLive⟩ :=
    accounts ledger others issued (live.trans total)
  refine ⟨idle, ⟨reached, ?_, reachedIssued, ?_⟩, ?_⟩
  · rw [log, uses_append, Ledger.run_append_some ran, later]
  · rw [reachedLive, removed, null, handles_none, Multiset.zero_add, Multiset.zero_add]
  · exact fun other member => sound.tidy other (List.mem_of_mem_eraseIdx member)

/-- A call on one object that came back. -/
theorem callAt {α : Type} [Holder O] {owner : Owner} {target : Nat} {object : O}
    (sound : Sound heap) (wrap : O → Owner) (call : Method O σ α)
    (present : heap.objects[target]? = some owner)
    (had : Holder.handle owner = Holder.handle object)
    (has : ∀ object, Holder.handle (wrap object) = Holder.handle object)
    (came : Ended (call.run ⟨object, heap.world⟩).1 →
      let after := (call.run ⟨object, heap.world⟩).2
      Transfers 0 ⟨object, heap.world⟩ after ∧ after.world.held = [] ∧ (wrap after.self).Tidy)
    (stepped : heap.callAt target wrap call object = some next) : Sound next := by
  rw [Heap.callAt] at stepped
  split at stepped
  next ended =>
    obtain ⟨transfers, idle, tidy⟩ := came ended
    rw [Option.some.injEq] at stepped
    subst stepped
    exact sound.replace present (transfers.lift had (has _) rfl) idle tidy
  next => simp at stepped

/-- A destructor that came back. -/
theorem destroyAt [Holder O] {owner : Owner} {target : Nat} {object : O}
    (sound : Sound heap) (wrap : O → Owner) (destructor : Method O σ Unit)
    (present : heap.objects[target]? = some owner)
    (had : Holder.handle owner = Holder.handle object)
    (has : ∀ object, Holder.handle (wrap object) = Holder.handle object)
    (gone : let after := (destructor.run ⟨object, heap.world⟩).2
      Transfers 0 ⟨object, heap.world⟩ after ∧ after.world.held = [] ∧
        Holder.handle after.self = none)
    (stepped : heap.destroyAt target destructor object = some next) : Sound next := by
  rw [Heap.destroyAt] at stepped
  split at stepped
  next =>
    obtain ⟨transfers, idle, null⟩ := gone
    rw [Option.some.injEq] at stepped
    subst stepped
    exact sound.remove present (transfers.lift had (has _) rfl) idle ((has _).trans null)
  next => simp at stepped

end Sound

end Heap

/-! ## The calls of each kind of object -/

namespace DeviceOp

variable {σ : Type} (tb : Toolbox) (hid : Hidapi σ) {dev : HidppDevice} {world : World σ}

theorem call_idle (op : DeviceOp) (idle : world.held = [])
    (ended : Ended ((op.call tb hid).run ⟨dev, world⟩).1) :
    ((op.call tb hid).run ⟨dev, world⟩).2.world.held = [] := by
  have free : NoDevice world.held := by
    rw [idle]
    exact noDevice_nil
  by_cases report : op = .getError
  · subst report
    obtain ⟨text, ran⟩ := HidppDevice.getDevError_run hid (free dev.object)
    rw [call, Action.run_map_state, HidppDevice.getError, ran]
    exact idle
  · obtain ⟨events, _, traced⟩ := op.call_disciplined tb hid report ⟨dev, world⟩ free
    exact (traced.balanced ended).trans idle

/-- An `open` needs a device without a handle. -/
theorem call_transfers (op : DeviceOp) (idle : world.held = [])
    (fresh : op = .open → dev.mDev = none) :
    Transfers 0 ⟨dev, world⟩ ((op.call tb hid).run ⟨dev, world⟩).2 := by
  have free : dev.mDevLock ∉ world.held := World.free_of_idle idle _
  cases op with
  | «open» =>
      have opened := HidppDevice.open_transfers hid free
      rw [fresh rfl] at opened
      rw [call, Action.run_map_state]
      exact opened
  | close => exact (HidppDevice.close_conserving hid).transfers _
  | write data => exact ((HidppDevice.write_conserving hid data).map _).transfers _
  | read out readLen => exact ((HidppDevice.read_conserving tb hid out readLen).map _).transfers _
  | readRaw hasOut readLen =>
      exact ((HidppDevice.readRaw_conserving hid hasOut readLen).map _).transfers _
  | readBack out seq readLen =>
      exact ((HidppDevice.readBack_conserving tb hid out seq readLen).map _).transfers _
  | getError => exact ((HidppDevice.getError_conserving hid).map _).transfers _

end DeviceOp

namespace Owner

variable {σ : Type} (hid : Hidapi σ)

theorem tidy_of_not_wallet {owner : Owner} (other : ∀ wallet, owner ≠ .wallet wallet) :
    owner.Tidy :=
  fun wallet same => absurd same (other wallet)

theorem exposed_tidy {owner : Owner} {dev : HidppDevice} (exposed : owner.exposed? = some dev)
    (other : HidppDevice) : (owner.withExposed other).Tidy := by
  apply tidy_of_not_wallet
  cases owner <;> cases exposed <;> simp [withExposed]

theorem tidy_wallet {wallet : NanosWallet} {held : List Mutex} {world : World σ}
    (settled : NanosWallet.Settled held ⟨wallet, world⟩) : (Owner.wallet wallet).Tidy := by
  intro other same
  rw [← Owner.wallet.inj same]
  exact ⟨settled.room, settled.placed, settled.flagged⟩

end Owner

namespace HidppDevice

variable {σ : Type} (hid : Hidapi σ) {world : World σ}

/-- The destructor closes the handle. -/
theorem destroy_gone (dev : HidppDevice) (idle : world.held = []) :
    let after := ((destroy hid).run ⟨dev, world⟩).2
    Transfers 0 ⟨dev, world⟩ after ∧ after.world.held = [] ∧ after.self.mDev = none := by
  have free : dev.mDevLock ∉ world.held := World.free_of_idle idle _
  refine ⟨close_transfers hid free, ?_⟩
  rw [destroy, close_run hid free]
  rcases device : dev.mDev with _ | handle
  · exact ⟨idle, device⟩
  · exact ⟨idle, rfl⟩

end HidppDevice

namespace NanosWallet

variable {σ : Type} (hid : Hidapi σ) {wallet : NanosWallet} {world : World σ}

theorem destroy_gone (idle : world.held = []) :
    let after := ((destroy hid).run ⟨wallet, world⟩).2
    Transfers 0 ⟨wallet, world⟩ after ∧ after.world.held = [] ∧
      after.self.mFramer.mIo.mDev = none := by
  have free : wallet.mFramer.mIo.mDevLock ∉ world.held := World.free_of_idle idle _
  refine ⟨(destroy_conserving hid).transfers _, ?_⟩
  rw [destroy, Action.run_bind_ok (close_run hid free)]
  have closedIdle : (wallet.afterDrop hid world).held = [] := by
    rw [afterDrop_held, idle]
  obtain ⟨_, idleAfter, null⟩ :=
    HidppDevice.destroy_gone hid wallet.closed.mFramer.mIo closedIdle
  exact ⟨idleAfter, null⟩

end NanosWallet

/-! ## Programs -/

/-- The step duplicates no handle and overwrites none: it copies from objects
without a handle, assigns an object to itself or between objects without a
handle, opens a device without a handle, and makes no `init` or `init_root` that
replaces a handle. -/
def ObjectOp.Exclusive {σ : Type} (hid : Hidapi σ) (heap : Heap σ) : ObjectOp → Prop
  | .copyDevice source | .newFrameIo source | .newFramer source | .copyFramer source =>
      ∀ owner, heap.objects[source]? = some owner → Holder.handle owner = none
  | .assignDevice target source | .assignFramer target source =>
      target = source ∨ ∀ owner,
        heap.objects[target]? = some owner ∨ heap.objects[source]? = some owner →
          Holder.handle owner = none
  | .callDevice target .open =>
      ∀ owner, heap.objects[target]? = some owner → Holder.handle owner = none
  | .callWallet target op =>
      ∀ wallet, heap.objects[target]? = some (.wallet wallet) →
        op.leaks hid ⟨wallet, heap.world⟩ = 0
  | _ => True

namespace Heap

variable {O σ : Type} (tb : Toolbox) (hid : Hidapi σ) {heap next : Heap σ}

namespace Sound

/-- A constructor that touches no handle. -/
theorem create {object : O} {world : World σ} (sound : Sound heap) (wrap : O → Owner)
    (constructor : Method Unit σ O)
    (ran : constructor.run ⟨(), heap.world⟩ = (.ok object, ⟨(), world⟩))
    (events : List Event) (log : world.log = heap.world.log ++ events) (quiet : uses events = [])
    (issued : world.issued = heap.world.issued) (held : world.held = heap.world.held)
    (null : Holder.handle (wrap object) = none) (tidy : (wrap object).Tidy)
    (stepped : heap.create wrap constructor = some next) : Sound next := by
  rw [Heap.create, ran, Option.some.injEq] at stepped
  subst stepped
  exact sound.add events log quiet issued held null tidy

/-- A copy of a device that has no handle. -/
theorem createCopy {dev : HidppDevice} (sound : Sound heap) (wrap : O → Owner)
    (build : HidppDevice → O) (null : dev.mDev = none)
    (kind : ∀ object wallet, wrap object ≠ .wallet wallet)
    (has : ∀ dev, Holder.handle (wrap (build dev)) = dev.mDev)
    (stepped : heap.create wrap (build <$> HidppDevice.copyConstruct dev) = some next) :
    Sound next :=
  sound.create wrap (build <$> HidppDevice.copyConstruct dev) rfl [] (by simp) rfl rfl rfl
    ((has _).trans null) (Owner.tidy_of_not_wallet (kind _)) stepped

end Sound

/-- The source of a copy. -/
private theorem exposed_null {source : Nat} {owner : Owner} {dev : HidppDevice}
    (exclusive : ∀ owner, heap.objects[source]? = some owner → Holder.handle owner = none)
    (present : heap.objects[source]? = some owner) (exposed : owner.exposed? = some dev) :
    dev.mDev = none :=
  (Owner.handle_exposed exposed).symm.trans (exclusive owner present)

/-- An assignment changes no handle. -/
private theorem assigned {target : Nat} {owner other : Owner} (sound : Sound heap)
    (present : heap.objects[target]? = some owner)
    (same : Holder.handle other = Holder.handle owner) (tidy : other.Tidy) :
    Sound { heap with objects := heap.objects.set target other } :=
  have transfers : Transfers 0 ⟨owner, heap.world⟩ (⟨other, heap.world⟩ : Scene Owner σ) :=
    .ofQuiet [] (by simp) rfl same rfl
  sound.replace present transfers sound.idle tidy

theorem step_sound (sound : Sound heap) {op : ObjectOp} (exclusive : op.Exclusive hid heap)
    (stepped : heap.step tb hid op = some next) : Sound next := by
  cases op with
  | newDevice vendorId productId =>
      exact sound.create .device (HidppDevice.construct vendorId productId) rfl []
        (by simp) rfl rfl rfl rfl (Owner.tidy_of_not_wallet (by simp)) stepped
  | newDevicePath path =>
      exact sound.create .device (HidppDevice.constructPath path) rfl [] (by simp)
        rfl rfl rfl rfl (Owner.tidy_of_not_wallet (by simp)) stepped
  | copyDevice source =>
      simp only [step, Option.bind_eq_bind, Option.bind_eq_some_iff] at stepped
      obtain ⟨owner, present, dev, exposed, stepped⟩ := stepped
      exact sound.createCopy .device id (exposed_null exclusive present exposed)
        (by simp) (fun _ => rfl) stepped
  | newFrameIo source =>
      simp only [step, Option.bind_eq_bind, Option.bind_eq_some_iff] at stepped
      obtain ⟨owner, present, dev, exposed, stepped⟩ := stepped
      exact sound.createCopy .frameIo (FrameIo.fresh tb)
        (exposed_null exclusive present exposed) (by simp) (fun _ => rfl) stepped
  | newFramer source =>
      simp only [step, Option.bind_eq_bind, Option.bind_eq_some_iff] at stepped
      obtain ⟨owner, present, dev, exposed, stepped⟩ := stepped
      exact sound.createCopy .framer (FrameIoApdu.fresh tb)
        (exposed_null exclusive present exposed) (by simp) (fun _ => rfl) stepped
  | copyFramer source =>
      simp only [step, Option.bind_eq_bind, Option.bind_eq_some_iff] at stepped
      obtain ⟨owner, present, stepped⟩ := stepped
      have null := exclusive owner present
      cases owner with
      | device dev => simp at stepped
      | frameIo framer =>
          exact sound.createCopy .frameIo (fun mIo => { framer with mIo }) null
            (by simp) (fun _ => rfl) stepped
      | framer framer =>
          exact sound.createCopy .framer (fun mIo => { framer with mIo }) null
            (by simp) (fun _ => rfl) stepped
      | wallet wallet => simp at stepped
  | newWallet =>
      have free : Mutex.device heap.world.objects ∉ heap.world.held :=
        World.free_of_idle sound.idle _
      have tidy : (Owner.wallet { mFramer := .fresh tb (NanosWallet.newDevice
          (heap.world.objects + 1)), mValid := false }).Tidy := by
        intro wallet same
        rw [← Owner.wallet.inj same]
        exact ⟨by simp, .inl rfl,
          fun valid => by simp [NanosWallet.newDevice, HidppDevice.valid] at valid⟩
      exact sound.create .wallet (NanosWallet.construct tb hid)
        (NanosWallet.construct_run tb hid free) _ rfl rfl rfl rfl rfl tidy stepped
  | assignDevice target source =>
      simp only [step, Option.bind_eq_bind, Option.bind_eq_some_iff, Option.some.injEq] at stepped
      obtain ⟨owner, present, dev, exposed, giver, given, other, exposedOther, rfl⟩ := stepped
      refine assigned sound present ?_ (Owner.exposed_tidy exposed _)
      rw [Owner.handle_withExposed exposed, HidppDevice.assign, ← Owner.handle_exposed exposedOther]
      rcases exclusive with rfl | null
      · rw [present, Option.some.injEq] at given
        rw [given]
      · rw [null owner (.inl present), null giver (.inr given)]
  | assignFramer target source =>
      simp only [step, Option.bind_eq_bind, Option.bind_eq_some_iff] at stepped
      obtain ⟨owner, present, giver, given, stepped⟩ := stepped
      have same : Holder.handle giver = Holder.handle owner := by
        rcases exclusive with rfl | null
        · rw [present, Option.some.injEq] at given
          rw [given]
        · rw [null owner (.inl present), null giver (.inr given)]
      split at stepped
      next framer other =>
        rw [Option.some.injEq] at stepped
        subst stepped
        exact assigned sound present same (Owner.tidy_of_not_wallet (by simp))
      next framer other =>
        rw [Option.some.injEq] at stepped
        subst stepped
        exact assigned sound present same (Owner.tidy_of_not_wallet (by simp))
      next => simp at stepped
  | callDevice target op =>
      simp only [step, Option.bind_eq_bind, Option.bind_eq_some_iff] at stepped
      obtain ⟨owner, present, dev, exposed, stepped⟩ := stepped
      have fresh : op = .open → dev.mDev = none := by
        intro opens
        subst opens
        exact exposed_null exclusive present exposed
      exact sound.callAt (owner.withExposed ·) (op.call tb hid) present
        (Owner.handle_exposed exposed)
        (fun other => Owner.handle_withExposed exposed other)
        (fun ended => ⟨op.call_transfers tb hid sound.idle fresh,
          op.call_idle tb hid sound.idle ended, Owner.exposed_tidy exposed _⟩) stepped
  | callFramer target apdu statusCode =>
      simp only [step, Option.bind_eq_bind, Option.bind_eq_some_iff] at stepped
      obtain ⟨owner, present, stepped⟩ := stepped
      split at stepped
      next framer =>
        have free : NoDevice heap.world.held := by
          rw [sound.idle]
          exact noDevice_nil
        obtain ⟨events, _, traced⟩ :=
          FrameIoApdu.exchange_disciplined tb hid apdu statusCode ⟨framer, heap.world⟩ free
        apply sound.callAt .framer (FrameIoApdu.exchange tb hid apdu statusCode) present rfl
          (fun _ => rfl) _ stepped
        intro ended
        exact ⟨(FrameIoApdu.exchange_conserving tb hid apdu statusCode).transfers _,
          (traced.balanced ended).trans sound.idle, Owner.tidy_of_not_wallet (by simp)⟩
      next => simp at stepped
  | callWallet target op =>
      simp only [step, Option.bind_eq_bind, Option.bind_eq_some_iff] at stepped
      obtain ⟨owner, present, stepped⟩ := stepped
      split at stepped
      next wallet =>
        obtain ⟨room, placed, flagged⟩ := sound.tidy _ (List.mem_of_getElem? present) wallet rfl
        have settled : NanosWallet.Settled [] ⟨wallet, heap.world⟩ :=
          ⟨sound.idle, room, placed, flagged⟩
        refine sound.callAt .wallet (op.call tb hid) present rfl (fun _ => rfl) (fun ended => ?_)
          stepped
        have kept := op.settled_kept tb hid _ ((WalletOp.counts_iff_ended _).mpr ended) settled
        have transfers := op.call_transfers tb hid settled ended
        rw [exclusive wallet present] at transfers
        exact ⟨transfers, kept.idle, Owner.tidy_wallet kept⟩
      next => simp at stepped
  | destroy target =>
      simp only [step, Option.bind_eq_bind, Option.bind_eq_some_iff] at stepped
      obtain ⟨owner, present, stepped⟩ := stepped
      split at stepped
      next dev =>
        exact sound.destroyAt .device (HidppDevice.destroy hid) present rfl (fun _ => rfl)
          (HidppDevice.destroy_gone hid dev sound.idle) stepped
      next framer =>
        obtain ⟨transfers, idle, null⟩ := HidppDevice.destroy_gone hid framer.mIo sound.idle
        exact sound.destroyAt .frameIo (onMember FrameIo.io (HidppDevice.destroy hid)) present rfl
          (fun _ => rfl) ⟨transfers.lift rfl rfl rfl, idle, null⟩ stepped
      next framer =>
        obtain ⟨transfers, idle, null⟩ := HidppDevice.destroy_gone hid framer.mIo sound.idle
        exact sound.destroyAt .framer
          (onMember FrameIoApdu.frameIo (onMember FrameIo.io (HidppDevice.destroy hid))) present rfl
          (fun _ => rfl) ⟨transfers.lift rfl rfl rfl, idle, null⟩ stepped
      next wallet =>
        exact sound.destroyAt .wallet (NanosWallet.destroy hid) present rfl (fun _ => rfl)
          (NanosWallet.destroy_gone hid sound.idle) stepped

/-- A program, step by step. -/
def run (heap : Heap σ) (program : List ObjectOp) : Option (Heap σ) :=
  program.foldlM (step tb hid) heap

end Heap

/-- The heaps that programs reach whose steps all met `Allowed`. -/
inductive HeapRun {σ : Type} (tb : Toolbox) (hid : Hidapi σ)
    (Allowed : Heap σ → ObjectOp → Prop) : Heap σ → Prop
  | start (env : σ) : HeapRun tb hid Allowed ⟨[], .initial env⟩
  | step {heap next : Heap σ} (earlier : HeapRun tb hid Allowed heap) (op : ObjectOp)
      (allowed : Allowed heap op) (stepped : heap.step tb hid op = some next) :
      HeapRun tb hid Allowed next

namespace HeapRun

variable {σ : Type} {tb : Toolbox} {hid : Hidapi σ} {heap next : Heap σ}

theorem run (reached : HeapRun tb hid (fun _ _ => True) heap) (program : List ObjectOp)
    (ran : heap.run tb hid program = some next) : HeapRun tb hid (fun _ _ => True) next := by
  induction program generalizing heap with
  | nil =>
      rw [Heap.run, List.foldlM_nil, Option.pure_def, Option.some.injEq] at ran
      rw [← ran]
      exact reached
  | cons op program inductionHypothesis =>
      rw [Heap.run, List.foldlM_cons, Option.bind_eq_bind, Option.bind_eq_some_iff] at ran
      obtain ⟨middle, stepped, rest⟩ := ran
      exact inductionHypothesis (reached.step op trivial stepped) rest

theorem sound (reached : HeapRun tb hid (fun heap op => op.Exclusive hid heap) heap) :
    heap.Sound := by
  induction reached with
  | start env => exact Heap.initial_sound env
  | step _ op exclusive stepped inductionHypothesis =>
      exact Heap.step_sound tb hid inductionHypothesis exclusive stepped

end HeapRun

theorem use?_eq_release {event : Event} {handle : Handle} :
    event.use? = some (.release handle) ↔ event = .hidClose handle := by
  cases event with
  | hidOpen _ _ opened => cases opened <;> simp [Event.use?]
  | hidOpenPath _ opened => cases opened <;> simp [Event.use?]
  | hidWrite dev _ => cases dev <;> simp [Event.use?]
  | hidRead dev _ => cases dev <;> simp [Event.use?]
  | _ => simp [Event.use?]

theorem count_hidClose (events : List Event) (handle : Handle) :
    events.count (.hidClose handle) = (uses events).count (.release handle) := by
  induction events with
  | nil => rfl
  | cons event events inductionHypothesis =>
      rw [uses, List.filterMap_cons]
      by_cases closes : event = .hidClose handle
      · subst closes
        rw [List.count_cons_self, inductionHypothesis]
        exact (List.count_cons_self ..).symm
      · rw [List.count_cons_of_ne closes, inductionHypothesis]
        rcases used : event.use? with _ | use
        · rfl
        · refine (List.count_cons_of_ne ?_).symm
          intro releases
          exact closes (use?_eq_release.mp (used.trans (congrArg some releases)))

/-- In a program that duplicates and overwrites no handle every handle is closed
at most once, is not used after that, and has been closed once when no object is
left. -/
theorem handle_has_one_owner {σ : Type} {tb : Toolbox} {hid : Hidapi σ} {heap : Heap σ}
    (reached : HeapRun tb hid (fun heap op => op.Exclusive hid heap) heap) (handle : Handle) :
    heap.world.log.count (.hidClose handle) ≤ 1 ∧
    (∀ before after, heap.world.log = before ++ .hidClose handle :: after →
      ∀ event ∈ after, event.use? ≠ some (.use handle) ∧ event ≠ .hidClose handle) ∧
    (heap.objects = [] → (∃ event ∈ heap.world.log, event.use? = some (.acquire handle)) →
      heap.world.log.count (.hidClose handle) = 1) := by
  obtain ⟨ledger, ran, _, live⟩ := reached.sound.accounts
  refine ⟨?_, ?_, ?_⟩
  · rw [count_hidClose]
    exact Ledger.count_release_le_one ran handle
  · intro before after log event member
    rw [log, uses_append] at ran
    obtain ⟨unused, unreleased⟩ := Ledger.not_mem_after_release ran
    constructor
    · intro used
      exact unused (List.mem_filterMap.mpr ⟨event, member, used⟩)
    · intro closes
      exact unreleased (List.mem_filterMap.mpr ⟨event, member, use?_eq_release.mpr closes⟩)
  · intro none ⟨event, member, opens⟩
    rw [count_hidClose]
    apply Ledger.count_release_eq_one ran (List.mem_filterMap.mpr ⟨event, member, opens⟩)
    rw [live, none]
    exact Multiset.notMem_zero _

theorem handle_has_one_owner_of_new :
    ∃ heap : Heap Script, HeapRun Toolbox.reference Script.device
        (fun heap op => op.Exclusive Script.device heap) heap ∧
      heap.objects = [] ∧ heap.world.log.count (.hidClose 0) = 1 := by
  have opened : HeapRun Toolbox.reference Script.device
      (fun heap op => op.Exclusive Script.device heap) _ :=
    ((HeapRun.start (Script.attachedWith [])).step (.newDevice ledgerVid nanosPid) trivial rfl).step
      (.callDevice 0 .open) (fun _ present => by cases present; rfl) rfl
  have destroyed := opened.step (.destroy 0) trivial rfl
  exact ⟨_, destroyed, rfl, (handle_has_one_owner destroyed 0).2.2 rfl
    ⟨.hidOpen ledgerVid nanosPid (some 0), by decide, rfl⟩⟩

/-- A device is opened and copied, and both are destroyed. -/
def copyProgram : List ObjectOp :=
  [.newDevice ledgerVid nanosPid, .callDevice 0 .open, .copyDevice 0, .destroy 0, .destroy 0]

theorem copy_closes_twice :
    ¬ ∀ (tb : Toolbox) (hid : Hidapi Script) (heap : Heap Script),
        HeapRun tb hid (fun _ _ => True) heap →
        ∀ handle, heap.world.log.count (.hidClose handle) ≤ 1 := by
  intro once
  have twice : ((Heap.mk [] (.initial (.attachedWith []))).run Toolbox.reference Script.device
      copyProgram).any (fun heap => decide (1 < heap.world.log.count (.hidClose 0))) = true := by
    decide +kernel
  obtain ⟨heap, ran, count⟩ := (Option.any_eq_true ..).mp twice
  have reached := (HeapRun.start _).run copyProgram ran
  exact absurd (once Toolbox.reference Script.device heap reached 0)
    (Nat.not_le.mpr (of_decide_eq_true count))

end MhWallet
