import MhWallet.Wallet.Status
import Mathlib.Data.Nat.Find
import Mathlib.Logic.Function.Iterate

/-!
Contract: which application `run_app` reports after its polls.

`run_app` and `get_opened_app_pid` scan an enumeration for a device that is not
the root device.  The second stops at the first one; the scan of `run_app` has
no such `break` and ends with the last one.

Owns: the polls of `run_app`, and their comparison with `get_opened_app_pid`.

Does not own: the exchange that asks the device to start the application.
-/

namespace MhWallet

open MhWallet.Effect MhWallet.Method MhWallet.Framing

/-- The devices that are not the root device. -/
def appDevices (devices : List HidDeviceInfo) : List HidDeviceInfo :=
  devices.filter fun device => device.productId ≠ nanosPidRoot

namespace NanosWallet

variable {σ : Type} (tb : Toolbox) (hid : Hidapi σ) {scene : Scene NanosWallet σ} {env : σ}
  {tries poll : Nat}

/-! ## One enumeration -/

theorem scanForApp_eq (devices : List HidDeviceInfo) (found : Bool) (pid : UInt16) :
    scanForApp devices found pid =
      match (appDevices devices).getLast? with
      | some device => (true, device.productId)
      | none => (found, pid) := by
  induction devices using List.reverseRecOn with
  | nil => rfl
  | append_singleton devices device inductionHypothesis =>
      have last : scanForApp (devices ++ [device]) found pid =
          if device.productId ≠ nanosPidRoot then (true, device.productId)
          else scanForApp devices found pid := by
        rw [scanForApp, List.foldl_append]
        rfl
      rw [last, inductionHypothesis, appDevices, appDevices, List.filter_append]
      by_cases root : device.productId = nanosPidRoot
      · rw [if_neg (not_not.mpr root), List.filter_cons_of_neg (by simpa using root),
          List.filter_nil, List.append_nil]
      · rw [if_pos root, List.filter_cons_of_pos (by simpa using root), List.filter_nil,
          List.getLast?_concat]

theorem openedAppPid_eq (devices : List HidDeviceInfo) :
    openedAppPid devices = (((appDevices devices).head?).map (·.productId)).getD 0 := by
  rw [openedAppPid, appDevices, List.head?_filter]
  rcases devices.find? _ with _ | device <;> rfl

/-! ## The polls -/

/-- The environment after some polls. -/
def polledEnv (hid : Hidapi σ) (polls : Nat) (env : σ) : σ :=
  (fun env => (hid.enumerate env).2)^[polls] env

/-- The application devices that a poll finds, after `poll` earlier ones. -/
def seenBy (hid : Hidapi σ) (env : σ) (poll : Nat) : List HidDeviceInfo :=
  appDevices (found hid ledgerVid 0 (polledEnv hid poll env))

/-- Of these polls, this is the first that finds an application device. -/
structure FirstSeen (hid : Hidapi σ) (tries : Nat) (env : σ) (poll : Nat) : Prop where
  made : poll < tries
  seen : seenBy hid env poll ≠ []
  unseen : ∀ earlier < poll, seenBy hid env earlier = []

/-- The scene after some polls. -/
def polled (hid : Hidapi σ) (polls : Nat) (scene : Scene NanosWallet σ) : Scene NanosWallet σ :=
  (listed hid ledgerVid 0)^[polls] scene

theorem polled_log (polls : Nat) (scene : Scene NanosWallet σ) :
    (polled hid polls scene).world.log =
      scene.world.log ++ List.replicate polls (.hidEnumerate ledgerVid 0) := by
  induction polls generalizing scene with
  | zero => simp [polled]
  | succ polls inductionHypothesis =>
      apply (inductionHypothesis (listed hid ledgerVid 0 scene)).trans
      simp [listed, World.extend, List.replicate_succ]

theorem seenBy_succ (env : σ) (poll : Nat) :
    seenBy hid env (poll + 1) = seenBy hid (hid.enumerate env).2 poll := rfl

/-- A poll that finds an application device ends the loop, and so does the last
one. -/
theorem pollForApp_step (tries : Nat) (scene : Scene NanosWallet σ) :
    (pollForApp hid (tries + 1) false 0).run scene =
      match (seenBy hid scene.world.env 0).getLast? with
      | some device => (.ok device.productId, listed hid ledgerVid 0 scene)
      | none => (pollForApp hid tries false 0).run (listed hid ledgerVid 0 scene) := by
  rw [pollForApp, Action.run_bind_ok (enumerateDevices_run ..), scanForApp_eq]
  rcases last : (seenBy hid scene.world.env 0).getLast? with _ | device
  · rw [show (appDevices (found hid ledgerVid 0 scene.world.env)).getLast? = none from last]
    rcases tries with _ | tries <;> rfl
  · rw [show (appDevices (found hid ledgerVid 0 scene.world.env)).getLast? = some device from last]
    simp

theorem pollForApp_unseen (unseen : ∀ poll < tries, seenBy hid scene.world.env poll = []) :
    (pollForApp hid tries false 0).run scene = (.ok 0, polled hid tries scene) := by
  induction tries generalizing scene with
  | zero => rfl
  | succ tries inductionHypothesis =>
      rw [pollForApp_step, unseen 0 (Nat.succ_pos tries)]
      apply inductionHypothesis
      intro poll made
      rw [listed_env, ← seenBy_succ]
      exact unseen _ (Nat.succ_lt_succ made)

/-- The loop ends at the first poll that finds an application device, with the
last one that it finds. -/
theorem pollForApp_seen (first : FirstSeen hid tries scene.world.env poll) :
    ∃ device, (seenBy hid scene.world.env poll).getLast? = some device ∧
      (pollForApp hid tries false 0).run scene =
        (.ok device.productId, polled hid (poll + 1) scene) := by
  induction tries generalizing scene poll with
  | zero => exact absurd first.made (Nat.not_lt_zero poll)
  | succ tries inductionHypothesis =>
      rw [pollForApp_step]
      rcases poll with _ | poll
      · obtain ⟨device, last⟩ := Option.ne_none_iff_exists'.mp
          (mt List.getLast?_eq_none_iff.mp first.seen)
        exact ⟨device, last, by rw [last]; rfl⟩
      · rw [first.unseen 0 (Nat.succ_pos poll)]
        have later : FirstSeen hid tries (listed hid ledgerVid 0 scene).world.env poll :=
          ⟨Nat.lt_of_succ_lt_succ first.made, first.seen,
            fun earlier before => first.unseen (earlier + 1) (Nat.succ_lt_succ before)⟩
        exact inductionHypothesis later

/-- Some poll is the first to find an application device, or none finds one. -/
theorem firstSeen_or_unseen (hid : Hidapi σ) (tries : Nat) (env : σ) :
    (∃ poll, FirstSeen hid tries env poll) ∨ ∀ poll < tries, seenBy hid env poll = [] := by
  by_cases seen : ∃ poll, poll < tries ∧ seenBy hid env poll ≠ []
  · classical
    have first := Nat.find_spec seen
    refine .inl ⟨Nat.find seen, first.1, first.2, fun earlier before => ?_⟩
    by_contra found
    exact Nat.find_min seen before ⟨Nat.lt_trans before first.1, found⟩
  · right
    intro poll made
    by_contra found
    exact seen ⟨poll, made, found⟩

theorem FirstSeen.unique {other : Nat} (first : FirstSeen hid tries env poll)
    (second : FirstSeen hid tries env other) : poll = other := by
  rcases Nat.lt_trichotomy poll other with before | same | after
  · exact absurd (second.unseen poll before) first.seen
  · exact same
  · exact absurd (first.unseen other after) second.seen

/-! ## The two calls -/

/-- The polls that start in `scene` end, after at most 300 enumerations, with
what `get_opened_app_pid` returns at the first enumeration that contains an
application device, and with 0 if none of the 300 contains one. -/
def AgreesWithOpenedApp (hid : Hidapi σ) (scene : Scene NanosWallet σ)
    (ran : Except Stop UInt16 × Scene NanosWallet σ) : Prop :=
  ∃ pid polls, ran.1 = .ok pid ∧ polls ≤ maxWaitTries ∧
    ran.2.world.log =
      scene.world.log ++ List.replicate polls (.hidEnumerate ledgerVid 0) ∧
    (∀ poll, FirstSeen hid maxWaitTries scene.world.env poll →
      ((getOpenedAppPid hid).run
        ⟨scene.self, .initial (polledEnv hid poll scene.world.env)⟩).1 = .ok pid) ∧
    ((∀ poll < maxWaitTries, seenBy hid scene.world.env poll = []) → pid = 0)

/-- The first and the last of these devices have the same product id. -/
def EndsAlike (devices : List HidDeviceInfo) : Prop :=
  devices.head?.map (·.productId) = devices.getLast?.map (·.productId)

instance : DecidablePred EndsAlike := fun _ => inferInstanceAs (Decidable (_ = _))

theorem openedAppPid_polled (poll : Nat) (env : σ) (wallet : NanosWallet) :
    ((getOpenedAppPid hid).run ⟨wallet, .initial (polledEnv hid poll env)⟩).1 =
      .ok (((seenBy hid env poll).head?.map (·.productId)).getD 0) := by
  rw [getOpenedAppPid_run hid rfl, openedAppPid_eq]
  rfl

theorem pollForApp_agrees_iff (scene : Scene NanosWallet σ) :
    AgreesWithOpenedApp hid scene ((pollForApp hid maxWaitTries false 0).run scene) ↔
      ∀ poll, FirstSeen hid maxWaitTries scene.world.env poll →
        EndsAlike (seenBy hid scene.world.env poll) := by
  rcases firstSeen_or_unseen hid maxWaitTries scene.world.env with ⟨poll, first⟩ | unseen
  · obtain ⟨device, last, ran⟩ := pollForApp_seen hid first
    obtain ⟨chosen, rest, seen⟩ := List.exists_cons_of_ne_nil first.seen
    have opened := openedAppPid_polled hid poll scene.world.env scene.self
    rw [seen] at opened
    rw [ran]
    constructor
    · rintro ⟨pid, polls, returned, _, _, agree, _⟩ other another
      obtain rfl := first.unique hid another
      have agreed := agree poll first
      rw [opened] at agreed
      have same : device.productId = chosen.productId :=
        (Except.ok.inj returned).trans (Except.ok.inj agreed).symm
      rw [EndsAlike, last, seen]
      exact congrArg some same.symm
    · intro alike
      have same := alike poll first
      rw [EndsAlike, last, seen] at same
      refine ⟨device.productId, poll + 1, rfl, first.made, polled_log hid _ scene, ?_, ?_⟩
      · intro other another
        obtain rfl := first.unique hid another
        rw [opened]
        exact congrArg Except.ok (Option.some.inj same)
      · intro unseen
        exact absurd (unseen poll first.made) first.seen
  · have never : ∀ poll, ¬ FirstSeen hid maxWaitTries scene.world.env poll :=
      fun poll first => first.seen (unseen poll first.made)
    rw [pollForApp_unseen hid unseen]
    refine ⟨fun _ poll first => absurd first (never poll), fun _ => ?_⟩
    exact ⟨0, maxWaitTries, rfl, Nat.le_refl _, polled_log hid _ scene,
      fun poll first => absurd first (never poll), fun _ => rfl⟩

variable {tb hid}

/-- After its exchange, `run_app` returns what `get_opened_app_pid` would, if and
only if the first enumeration that contains application devices starts and ends
with the same product id. -/
theorem runApp_agrees_iff {retries : Nat} {name response : Bytes}
    {reached : Scene NanosWallet σ}
    (answered : (runAppResponse tb hid retries name).run scene = (.ok response, reached)) :
    AgreesWithOpenedApp hid reached ((runApp tb hid retries name).run scene) ↔
      ∀ poll, FirstSeen hid maxWaitTries reached.world.env poll →
        EndsAlike (seenBy hid reached.world.env poll) := by
  rw [runApp, Action.run_bind_ok answered]
  exact pollForApp_agrees_iff hid reached

/-- A wallet that opened its device, which confirms one command; the
enumerations that follow find these devices. -/
def confirmed (attached : List (List HidDeviceInfo)) : Scene NanosWallet Script :=
  let plan := Script.attachedWith [.ofReport (inputReport (responseMessage [] codeSuccess) 0)]
  (((WalletOp.init nanosPid).call Toolbox.reference Script.device).run
    (first { plan with attached := plan.attached ++ attached })).2

theorem confirmed_reachable (attached : List (List HidDeviceInfo)) :
    WalletReachable Toolbox.reference Script.device (confirmed attached) :=
  (first_reachable _).step (.init nanosPid) trivial trivial

/-- A Ledger device with this product id. -/
def ledgerDevice (productId : UInt16) : HidDeviceInfo :=
  { path := "", vendorId := ledgerVid, productId }

/-- What is left of that plan when `run_app` starts to poll. -/
def polling (attached : List (List HidDeviceInfo)) : Script :=
  { attached, opens := [], writes := [], reads := [] }

/-- The application appears at the third poll. -/
def appearing : List (List HidDeviceInfo) :=
  [[], [ledgerDevice nanosPidRoot], [ledgerDevice nanosPid]]

theorem runApp_agrees_on_appearing :
    AgreesWithOpenedApp Script.device
      ((runAppResponse Toolbox.reference Script.device 0 [77]).run (confirmed appearing)).2
      ((runApp Toolbox.reference Script.device 0 [77]).run (confirmed appearing)) := by
  have outcome : ((runAppResponse Toolbox.reference Script.device 0 [77]).run
      (confirmed appearing)).1 = .ok [] := by
    decide +kernel
  have left : ((runAppResponse Toolbox.reference Script.device 0 [77]).run
      (confirmed appearing)).2.world.env = polling appearing := by
    decide +kernel
  have third : FirstSeen Script.device maxWaitTries (polling appearing) 2 :=
    ⟨by decide, by decide, by decide⟩
  apply (runApp_agrees_iff (Action.run_of_outcome outcome)).mpr
  rw [left]
  intro poll first
  obtain rfl := third.unique _ first
  decide

/-- Two application devices at once. -/
def crowded : List (List HidDeviceInfo) :=
  [[ledgerDevice nanosPid, ledgerDevice 4101]]

/-- There `run_app` reports the last and `get_opened_app_pid` the first. -/
theorem runApp_reports_last_device :
    ¬ ∀ (tb : Toolbox) (hid : Hidapi Script) (scene reached : Scene NanosWallet Script)
        (retries : Nat) (name response : Bytes),
      WalletReachable tb hid scene →
      (runAppResponse tb hid retries name).run scene = (.ok response, reached) →
      AgreesWithOpenedApp hid reached ((runApp tb hid retries name).run scene) := by
  intro agree
  have outcome : ((runAppResponse Toolbox.reference Script.device 0 [77]).run
      (confirmed crowded)).1 = .ok [] := by
    decide +kernel
  have left : ((runAppResponse Toolbox.reference Script.device 0 [77]).run
      (confirmed crowded)).2.world.env = polling crowded := by
    decide +kernel
  have answered := Action.run_of_outcome outcome
  have agreed := agree Toolbox.reference Script.device _ _ 0 [77] []
    (confirmed_reachable crowded) answered
  rw [runApp, Action.run_bind_ok answered, pollForApp_agrees_iff, left] at agreed
  have first : FirstSeen Script.device maxWaitTries (polling crowded) 0 :=
    ⟨by decide, by decide, by simp⟩
  exact absurd (agreed 0 first) (by decide)

end NanosWallet

end MhWallet
