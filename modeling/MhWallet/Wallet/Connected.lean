import MhWallet.Ownership.Calls

/-!
Contract: what the connection calls report, against what the wallet is connected
to after them.

Owns: the product a wallet is connected to, and the exact condition under which
each of the four calls reports it.
-/

namespace MhWallet

open MhWallet.Effect MhWallet.Method

/-- The handles of a reachable wallet are accounted for. -/
theorem WalletRun.ledger {σ : Type} {tb : Toolbox} {hid : Hidapi σ}
    {scene : Scene NanosWallet σ} {Allowed : Scene NanosWallet σ → WalletOp → Prop}
    (reached : WalletRun tb hid Allowed scene) :
    ∃ ledger others, Ledger.empty.run (uses scene.world.log) = some ledger ∧
      ledger.issued = scene.world.issued ∧
      ledger.live = handles scene.self.mFramer.mIo.mDev + others := by
  induction reached with
  | construct ran =>
      rw [NanosWallet.construct_run _ _ List.not_mem_nil] at ran
      simp only [Prod.mk.injEq, Except.ok.injEq, Scene.mk.injEq, true_and] at ran
      obtain ⟨rfl, rfl⟩ := ran
      exact ⟨.empty, 0, rfl, rfl, rfl⟩
  | step earlier op _ ended inductionHypothesis =>
      obtain ⟨ledger, others, ran, issued, live⟩ := inductionHypothesis
      obtain ⟨events, log, accounts⟩ := op.call_transfers tb hid earlier.settled ended
      obtain ⟨next, later, nextIssued, nextLive⟩ := accounts ledger others issued live
      refine ⟨next, _, ?_, nextIssued, nextLive⟩
      rw [log, uses_append, Ledger.run_append_some ran, later]

namespace NanosWallet

variable {σ : Type} (tb : Toolbox) (hid : Hidapi σ) {scene : Scene NanosWallet σ}

/-- The wallet is valid and holds an open handle that was opened for a product. -/
def ConnectedTo (productId : UInt16) (scene : Scene NanosWallet σ) : Prop :=
  scene.self.mValid = true ∧ ∃ handle, scene.self.mFramer.mIo.mDev = some handle ∧
    .hidOpen ledgerVid productId (some handle) ∈ scene.world.log ∧
    .hidClose handle ∉ scene.world.log

/-- The handle of a reachable wallet is open. -/
theorem handle_open {Allowed : Scene NanosWallet σ → WalletOp → Prop}
    (reached : WalletRun tb hid Allowed scene) {handle : Handle}
    (live : scene.self.mFramer.mIo.mDev = some handle) :
    .hidClose handle ∉ scene.world.log := by
  obtain ⟨ledger, others, ran, _, accounts⟩ := reached.ledger
  intro closed
  have released : Use.release handle ∈ uses scene.world.log :=
    List.mem_filterMap.mpr ⟨_, closed, rfl⟩
  have positive := List.count_pos_iff.mpr released
  have balance := Ledger.count_run ran handle
  have once := Ledger.count_acquire_le_one ran handle
  have held : 0 < ledger.live.count handle := by
    rw [Multiset.count_pos, accounts, live]
    simp
  rw [show Ledger.empty.live.count handle = 0 from rfl] at balance
  omega

/-- A part of a call that opens and closes nothing. -/
theorem connectedTo_of_quiet {reached : Scene NanosWallet σ} {productId : UInt16}
    (same : reached.self = scene.self) (events : List Event)
    (log : reached.world.log = scene.world.log ++ events)
    (noOpen : ∀ vendorId productId handle, .hidOpen vendorId productId handle ∉ events)
    (noClose : ∀ handle, .hidClose handle ∉ events) :
    ConnectedTo productId reached ↔ ConnectedTo productId scene := by
  simp only [ConnectedTo, same, log, List.mem_append, noOpen, noClose, or_false]

theorem not_connectedTo_of_invalid {productId : UInt16}
    (invalid : scene.self.mValid = false) : ¬ ConnectedTo productId scene := by
  intro ⟨valid, _⟩
  exact Bool.false_ne_true (invalid.symm.trans valid)

theorem dropped_invalid (scene : Scene NanosWallet σ) :
    (dropped hid scene).self.mValid = false := by
  unfold dropped
  split
  · rfl
  next invalid => simpa using invalid

/-- After an attempt the wallet is connected exactly if a device was opened. -/
theorem connectedTo_attempt_iff {productId : UInt16} (known : productId ≠ 0)
    {Allowed : Scene NanosWallet σ → WalletOp → Prop}
    (reached : WalletRun tb hid Allowed (left (attempt tb hid ledgerVid productId scene).2)) :
    ConnectedTo productId (left (attempt tb hid ledgerVid productId scene).2) ↔
      (attempt tb hid ledgerVid productId scene).1 = true := by
  have handle := attempt_handle tb hid ledgerVid productId scene
  constructor
  · intro ⟨_, device, held, _⟩
    by_contra refused
    rw [if_neg refused] at handle
    rw [show (left _).self.mFramer.mIo.mDev = none from handle] at held
    simp at held
  · intro opened
    rw [if_pos opened] at handle
    refine ⟨?_, scene.world.issued, handle, ?_, handle_open tb hid reached handle⟩
    · have valid := attempt_valid tb hid ledgerVid productId scene
      rw [opened] at valid
      exact valid
    · exact List.mem_append_left _
        (attempt_opens tb hid ledgerVid productId scene ⟨by decide, known⟩ opened)

/-- The devices that an enumeration of a product finds. -/
theorem found_ids {vendorId productId : UInt16} {env : σ} {device : HidDeviceInfo}
    {rest : List HidDeviceInfo} (devices : found hid vendorId productId env = device :: rest)
    (known : vendorId ≠ 0 ∧ productId ≠ 0) :
    device.vendorId = vendorId ∧ device.productId = productId := by
  have member : device ∈ found hid vendorId productId env := by
    rw [devices]
    exact List.mem_cons_self
  have matched := (List.mem_filter.mp member).2
  simp only [Hidapi.infoMatches, Hidapi.idMatches, Bool.and_eq_true, Bool.or_eq_true,
    beq_iff_eq, known.1, known.2, false_or] at matched
  exact ⟨matched.1.symm, matched.2.symm⟩

/-! ## The four calls -/

/-- A call reports this result exactly if the wallet is connected to the product
after it. -/
def Reports {α : Type} (action : Method NanosWallet σ α) (success : α) (productId : UInt16)
    (scene : Scene NanosWallet σ) : Prop :=
  (action.run scene).1 = .ok success ↔ ConnectedTo productId (action.run scene).2

/-- The quiet scenes of a call that opens and closes nothing. -/
theorem connectedTo_looked {productId : UInt16} (first second : UInt16) :
    ConnectedTo productId (left (listed hid ledgerVid second
        (listed hid ledgerVid first (entered scene)))) ↔ ConnectedTo productId scene :=
  connectedTo_of_quiet rfl [.lock .wallet, .hidEnumerate ledgerVid first,
    .hidEnumerate ledgerVid second, .unlock .wallet]
    (by simp [left, listed, entered, World.acquire, World.extend, World.release])
    (by simp) (by simp)

theorem connectedTo_lookedOnce {productId : UInt16} (first : UInt16) :
    ConnectedTo productId (left (listed hid ledgerVid first (entered scene))) ↔
      ConnectedTo productId scene :=
  connectedTo_of_quiet rfl [.lock .wallet, .hidEnumerate ledgerVid first, .unlock .wallet]
    (by simp [left, listed, entered, World.acquire, World.extend, World.release])
    (by simp) (by simp)

section Calls

variable {productId : UInt16} (reached : WalletReachable tb hid scene)

include reached

/-- `init` reports its success, unless it stays out of the way of a device that
the wallet is connected to already. -/
theorem init_reports_iff (known : productId ≠ 0) :
    Reports (init tb hid productId) true productId scene ↔
      (InitDials hid productId scene.world.env ∨ ¬ ConnectedTo productId scene) := by
  unfold Reports
  have next := reached.step (.init productId) trivial
    (by rw [WalletOp.call, Action.run_map, init_run tb hid reached.settled.idle]; trivial)
  rw [WalletOp.call, Action.run_map_state] at next
  have outcome := init_run tb hid reached.settled.idle productId
  by_cases dials : InitDials hid productId scene.world.env
  · apply iff_of_true _ (.inl dials)
    obtain ⟨device, rest, apps, dialed⟩ :=
      @initOutcome_of_dials _ tb hid (entered scene) _ dials
    rw [(found_ids hid apps ⟨by decide, known⟩).1] at dialed
    rw [init_run tb hid reached.settled.idle, dialed] at next
    rw [outcome, dialed, connectedTo_attempt_iff tb hid known next]
    simp
  · rw [outcome, @initOutcome_of_not_dials _ tb hid (entered scene) _ dials]
    simp only [connectedTo_looked]
    simp [dials]

theorem initRoot_reports_iff :
    Reports (initRoot tb hid) true nanosPidRoot scene ↔
      (found hid ledgerVid nanosPidRoot scene.world.env ≠ [] ∨
        ¬ ConnectedTo nanosPidRoot scene) := by
  unfold Reports
  have next := reached.step .initRoot trivial
    (by rw [WalletOp.call, Action.run_map, initRoot_run tb hid reached.settled.idle]; trivial)
  rw [WalletOp.call, Action.run_map_state] at next
  have outcome := initRoot_run tb hid reached.settled.idle
  by_cases noRoot : found hid ledgerVid nanosPidRoot scene.world.env = []
  · have stays : initRootOutcome tb hid (entered scene) =
        (false, listed hid ledgerVid nanosPidRoot (entered scene)) := by
      rw [initRootOutcome, show found hid ledgerVid nanosPidRoot (entered scene).world.env = []
        from noRoot]
    rw [outcome, stays]
    simp only [connectedTo_lookedOnce]
    simp [noRoot]
  · apply iff_of_true _ (.inl noRoot)
    obtain ⟨device, rest, devices⟩ := List.exists_cons_of_ne_nil noRoot
    obtain ⟨vendor, product⟩ := found_ids hid devices ⟨by decide, by decide⟩
    have dialed : initRootOutcome tb hid (entered scene) = attempt tb hid ledgerVid nanosPidRoot
        (listed hid ledgerVid nanosPidRoot (entered scene)) := by
      rw [initRootOutcome, show found hid ledgerVid nanosPidRoot (entered scene).world.env = _
        from devices]
      simp only [vendor, product]
    rw [initRoot_run tb hid reached.settled.idle, dialed] at next
    rw [outcome, dialed, connectedTo_attempt_iff tb hid (by decide) next]
    simp

/-- `init_ext` reports `APP_OPENED` for a valid wallet whenever the application
is attached, whatever the wallet is connected to. -/
theorem initExt_reports_iff (known : productId ≠ 0) :
    Reports (initExt tb hid productId) .appOpened productId scene ↔
      (scene.self.mValid = true ∧ found hid ledgerVid productId scene.world.env ≠ [] →
        ConnectedTo productId scene) := by
  unfold Reports
  have next := reached.step (.initExt productId) trivial
    (by rw [WalletOp.call, Action.run_map, initExt_run tb hid reached.settled.idle]; trivial)
  rw [WalletOp.call, Action.run_map_state] at next
  have outcome := initExt_run tb hid reached.settled.idle productId
  let looked := listed hid ledgerVid productId (entered scene)
  let lookedAgain := listed hid ledgerVid nanosPidRoot (dropped hid looked)
  have invalid : (left lookedAgain).self.mValid = false := dropped_invalid hid looked
  by_cases stays : scene.self.mValid = true ∧ found hid ledgerVid productId scene.world.env ≠ []
  · have early : initExtOutcome tb hid productId (entered scene) = (.appOpened, looked) :=
      if_pos stays
    rw [outcome, early]
    simp only [looked, connectedTo_lookedOnce]
    simp [stays]
  · apply iff_of_true _ fun both => absurd both stays
    have late : initExtOutcome tb hid productId (entered scene) = _ := if_neg stays
    by_cases root : found hid ledgerVid nanosPidRoot (dropped hid looked).world.env ≠ []
    · have refused : initExtOutcome tb hid productId (entered scene) =
          (.appNotOpened, lookedAgain) := late.trans (if_pos root)
      rw [outcome, refused]
      simp [not_connectedTo_of_invalid invalid]
    · have unrooted : initExtOutcome tb hid productId (entered scene) = _ :=
        late.trans (if_neg root)
      rcases apps : found hid ledgerVid productId (entered scene).world.env with
        _ | ⟨device, rest⟩
      · simp only [apps] at unrooted
        rw [outcome, unrooted]
        simp [lookedAgain, looked, not_connectedTo_of_invalid invalid]
      · obtain ⟨vendor, product⟩ := found_ids hid apps ⟨by decide, known⟩
        simp only [apps, vendor, product] at unrooted
        rw [initExt_run tb hid reached.settled.idle, unrooted] at next
        rw [outcome, unrooted, connectedTo_attempt_iff tb hid known next]
        simp

/-- `init_ext_root` reports `APP_NOT_OPENED` for a valid wallet whenever the root
device is attached, whatever the wallet is connected to. -/
theorem initExtRoot_reports_iff :
    Reports (initExtRoot tb hid) .appNotOpened nanosPidRoot scene ↔
      (scene.self.mValid = true ∧ found hid ledgerVid nanosPidRoot scene.world.env ≠ [] →
        ConnectedTo nanosPidRoot scene) := by
  unfold Reports
  have next := reached.step .initExtRoot trivial
    (by rw [WalletOp.call, Action.run_map, initExtRoot_run tb hid reached.settled.idle]; trivial)
  rw [WalletOp.call, Action.run_map_state] at next
  have outcome := initExtRoot_run tb hid reached.settled.idle
  let looked := listed hid ledgerVid nanosPidRoot (entered scene)
  have invalid : (left (dropped hid looked)).self.mValid = false :=
    dropped_invalid hid looked
  by_cases stays : scene.self.mValid = true ∧
      found hid ledgerVid nanosPidRoot scene.world.env ≠ []
  · have early : initExtRootOutcome tb hid (entered scene) = (.appNotOpened, looked) :=
      if_pos stays
    rw [outcome, early]
    simp only [looked, connectedTo_lookedOnce]
    simp [stays]
  · apply iff_of_true _ fun both => absurd both stays
    have late : initExtRootOutcome tb hid (entered scene) = _ := if_neg stays
    by_cases noRoot : found hid ledgerVid nanosPidRoot scene.world.env = []
    · have gone : initExtRootOutcome tb hid (entered scene) = (.disconnected, dropped hid looked) :=
        late.trans (if_pos noRoot)
      rw [outcome, gone]
      simp [not_connectedTo_of_invalid invalid]
    · have dialed : initExtRootOutcome tb hid (entered scene) = _ := late.trans (if_neg noRoot)
      dsimp only at dialed
      rw [initExtRoot_run tb hid reached.settled.idle, dialed] at next
      rw [outcome, dialed, connectedTo_attempt_iff tb hid (by decide) next]
      simp

/-- What the four calls report is what the wallet is connected to, exactly under
these conditions on the state before the call. -/
theorem connection_calls_report_iff (known : productId ≠ 0) :
    (Reports (init tb hid productId) true productId scene ↔
      (InitDials hid productId scene.world.env ∨ ¬ ConnectedTo productId scene)) ∧
    (Reports (initRoot tb hid) true nanosPidRoot scene ↔
      (found hid ledgerVid nanosPidRoot scene.world.env ≠ [] ∨
        ¬ ConnectedTo nanosPidRoot scene)) ∧
    (Reports (initExt tb hid productId) .appOpened productId scene ↔
      (scene.self.mValid = true ∧ found hid ledgerVid productId scene.world.env ≠ [] →
        ConnectedTo productId scene)) ∧
    (Reports (initExtRoot tb hid) .appNotOpened nanosPidRoot scene ↔
      (scene.self.mValid = true ∧ found hid ledgerVid nanosPidRoot scene.world.env ≠ [] →
        ConnectedTo nanosPidRoot scene)) :=
  ⟨init_reports_iff tb hid reached known, initRoot_reports_iff tb hid reached,
    initExt_reports_iff tb hid reached known, initExtRoot_reports_iff tb hid reached⟩

end Calls

/-- On a new wallet `init_ext` reports what it opens. -/
theorem connection_calls_report_of_new :
    Reports (initExt Toolbox.reference Script.device nanosPid) .appOpened nanosPid
      (first (.attachedWith [])) :=
  (connection_calls_report_iff Toolbox.reference Script.device (first_reachable _)
    (by decide)).2.2.1.mpr fun valid => absurd valid.1 Bool.false_ne_true

/-- A wallet that is connected to the root device reports an opened application
as soon as one is attached. -/
theorem init_ext_reports_wrong_device :
    ¬ ∀ (tb : Toolbox) (hid : Hidapi Script) (scene : Scene NanosWallet Script)
        (productId : UInt16), WalletReachable tb hid scene → productId ≠ 0 →
        Reports (initExt tb hid productId) .appOpened productId scene := by
  intro reports
  let replugged : Script :=
    { attached := [[{ path := "", vendorId := ledgerVid, productId := nanosPidRoot }],
        [{ path := "", vendorId := ledgerVid, productId := nanosPid16App }]],
      opens := [true], writes := [], reads := [] }
  have reached := (first_reachable replugged).step .initRoot trivial (by decide +kernel)
  obtain ⟨_, handle, _, opened, _⟩ :=
    (reports Toolbox.reference Script.device _ nanosPid16App reached (by decide)).mp
      (by decide +kernel)
  have never : ((initExt Toolbox.reference Script.device nanosPid16App).run
      ((WalletOp.initRoot.call Toolbox.reference Script.device).run
        (first replugged)).2).2.world.log.any (fun event =>
          match event with
          | .hidOpen _ productId _ => productId == nanosPid16App
          | _ => false) = false := by
    decide +kernel
  rw [List.any_eq_false] at never
  exact never _ opened rfl

end NanosWallet

end MhWallet
