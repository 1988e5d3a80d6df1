import MhWallet.Hid.Session

/-!
Contract: the calls of `linux/hid.c` over memory refine the calls on the table of
devices.

Owns: the relation between the two levels, the step of each call, and all runs.

Does not own: the calls themselves.
-/

namespace MhWallet.Hid

open MhWallet.Effect MhWallet.Text Process

/-- The memory is `frame` with the blocks of the last global error, of the devices that
are open, and those that have been lost. -/
structure Lays {κ : Type} (frame : Nat → Option Block) (lastGlobalErrorStr : Nat)
    (desk : Desk κ) (session : Session κ) (slots : List (Nat × Option Device))
    (global shelf lost : Cells) : Prop where
  handles : session.handles = slots.map Prod.fst
  devices : desk.devices = slots.map Prod.snd
  kernel : session.process.kernel = desk.kernel
  error : KeepsGlobal lastGlobalErrorStr desk.lastGlobalError global
  stands : Shelf slots shelf
  card : lost.card = desk.lost
  owns : Heap.Owns frame (global + (shelf + lost)) session.process.memory

/-- The session is a representation of the table. -/
def Represents {κ : Type} (frame : Nat → Option Block) (lastGlobalErrorStr : Nat)
    (desk : Desk κ) (session : Session κ) : Prop :=
  ∃ slots global shelf lost, Lays frame lastGlobalErrorStr desk session slots global shelf lost

section Steps

variable {κ : Type} {kernel : Kernel κ} {locale : Locale} {lastGlobalErrorStr : Nat}
  {frame : Nat → Option Block} {desk : Desk κ} {session : Session κ}
  {slots : List (Nat × Option Device)} {global shelf lost : Cells}

/-- A session that takes a step of the table. -/
def Follows (frame : Nat → Option Block) (lastGlobalErrorStr : Nat)
    (action : Action Stop (Session κ) Answer) (session : Session κ)
    (step : Answer × Desk κ) : Prop :=
  ∃ after, action.run session = (.ok step.1, after) ∧
    Represents frame lastGlobalErrorStr step.2 after

theorem Lays.process {α : Type} {cells : Cells} {action : Action Stop (Process κ) α}
    {post : α → κ → Cells → Prop}
    (lays : Lays frame lastGlobalErrorStr desk session slots global shelf lost)
    (same : cells = global + (shelf + lost)) (spec : Spec desk.kernel cells action post) :
    ∃ value after left, (Session.onProcess action).run session =
        (.ok value, { session with process := after }) ∧
      Heap.Owns frame left after.memory ∧ post value after.kernel left := by
  obtain ⟨value, after, left, ran, owns, holds⟩ :=
    spec session.process lays.kernel frame (same ▸ lays.owns)
  refine ⟨value, after, left, ?_, owns, holds⟩
  show (_, _) = _
  rw [show Session.processLens.get session = session.process from rfl, ran]
  rfl

/-- The pointer of an open device. -/
theorem Lays.slot (lays : Lays frame lastGlobalErrorStr desk session slots global shelf lost)
    {handle : Nat} {device : Device} (there : desk.device handle = some device) :
    ∃ dev, session.handles[handle]? = some dev ∧ slots[handle]? = some (dev, some device) := by
  rw [Desk.device, lays.devices, List.getElem?_map] at there
  rcases slot : slots[handle]? with - | ⟨dev, kept⟩
  · rw [slot] at there
    cases there
  · rw [slot] at there
    have open' : kept = some device := there
    refine ⟨dev, ?_, by rw [open']⟩
    rw [lays.handles, List.getElem?_map, slot]
    rfl

/-- The address of a slot stays when its device changes. -/
theorem map_fst_set {handle dev : Nat} {kept : Option Device}
    (there : slots[handle]? = some (dev, kept)) (kept' : Option Device) :
    (slots.set handle (dev, kept')).map Prod.fst = slots.map Prod.fst := by
  have address : (slots.map Prod.fst)[handle]? = some dev := by
    rw [List.getElem?_map, there]
    rfl
  obtain ⟨inside, value⟩ := List.getElem?_eq_some_iff.mp address
  rw [List.map_set, ← value, List.set_getElem_self]

/-- A call with the pointer of an open device. -/
theorem Lays.onHandle (lays : Lays frame lastGlobalErrorStr desk session slots global shelf lost)
    {handle : Nat} {device : Device} (there : desk.device handle = some device)
    {inner : Nat → Action Stop (Process κ) Answer} {step : Answer × Device × κ}
    (spec : ∀ dev box cells, Keeps dev device box →
      Spec desk.kernel (box + cells) (inner dev) (Matches dev cells step)) :
    Follows frame lastGlobalErrorStr (Session.onHandle handle inner) session
      (desk.place handle step) := by
  obtain ⟨dev, pointer, slot⟩ := lays.slot there
  obtain ⟨box, rest, keeps, rfl, replaced, -⟩ := lays.stands.take slot
  obtain ⟨value, after, left, ran, owns, rfl, kernel, box', keeps', rfl⟩ :=
    lays.process (by abel) (spec dev box (global + (rest + lost)) keeps)
  refine ⟨{ session with process := after }, ?_, slots.set handle (dev, some step.2.1), global,
    box' + rest, lost, ?_⟩
  · rw [Session.onHandle, Action.run_bind_ok (Action.run_read session), pointer]
    exact ran
  · exact {
      handles := by rw [map_fst_set slot, lays.handles]
      devices := by rw [Desk.place, lays.devices, List.map_set]
      kernel := kernel
      error := lays.error
      stands := replaced _ _ keeps'
      card := lays.card
      owns := by
        rw [show global + (box' + rest + lost) = box' + (global + (rest + lost)) from by abel]
        exact owns }

/-- A call that asks about an open device. -/
theorem Lays.onHandle_read
    (lays : Lays frame lastGlobalErrorStr desk session slots global shelf lost)
    {handle : Nat} {device : Device} (there : desk.device handle = some device) :
    Follows frame lastGlobalErrorStr (Session.onHandle handle fun dev => do
      return .text (← onMemory (hidError lastGlobalErrorStr (some dev)))) session
      (.text device.lastError, desk) := by
  have same : desk.place handle (.text device.lastError, device, desk.kernel) =
      (.text device.lastError, desk) := by
    have unchanged : desk.devices.set handle (some device) = desk.devices := by
      obtain ⟨inside, value⟩ := List.getElem?_eq_some_iff.mp (Option.join_eq_some_iff.mp there)
      rw [← value, List.set_getElem_self]
    rw [Desk.place, unchanged]
  rw [← same]
  apply lays.onHandle there
  intro dev box cells keeps
  refine Spec.bind (hidErrorOfDevice_spec keeps) ?_
  rintro _ _ _ ⟨rfl, same, rfl⟩
  exact Spec.pure ⟨rfl, same, box, keeps, rfl⟩

/-- A call that opens a device. -/
theorem Lays.issue (lays : Lays frame lastGlobalErrorStr desk session slots global shelf lost)
    {action : Action Stop (Process κ) (Option Nat)} {answer : Except WString Device × κ}
    {count : Nat}
    (spec : Spec desk.kernel (global + (shelf + lost)) action fun dev after left =>
      ∃ more : Cells, Opened lastGlobalErrorStr (more + (shelf + lost)) answer dev after left ∧
        more.card = count) :
    Follows frame lastGlobalErrorStr (do Session.issue (← Session.onProcess action)) session
      (desk.issue answer count) := by
  obtain ⟨dev, after, _, ran, owns, more, ⟨kernel, fresh, box, rfl, outcome⟩, card⟩ :=
    lays.process rfl spec
  rw [show fresh + (box + (more + (shelf + lost))) = fresh + (box + shelf + (more + lost))
    from by abel] at owns
  have total : (more + lost).card = desk.lost + count := by
    rw [Multiset.card_add, card, lays.card, Nat.add_comm]
  rcases answer with ⟨message | device, reached⟩
  · obtain ⟨rfl, rfl, error⟩ := outcome
    rw [Multiset.zero_add] at owns
    refine ⟨{ session with process := after }, Action.run_bind_ok ran _, slots, fresh, shelf,
      more + lost, ?_⟩
    exact ⟨lays.handles, lays.devices, kernel, error, lays.stands, total, owns⟩
  · obtain ⟨address, rfl, keeps, error⟩ := outcome
    refine ⟨⟨after, session.handles ++ [address]⟩, ?_, slots ++ [(address, some device)], fresh,
      box + shelf, more + lost, ?_⟩
    · have length : desk.devices.length = session.handles.length := by
        rw [lays.devices, lays.handles, List.length_map, List.length_map]
      rw [Action.run_bind_ok ran, Desk.issue, length]
      rfl
    · exact {
        handles := by simp [lays.handles]
        devices := by simp [Desk.issue, lays.devices]
        kernel := kernel
        error := error
        stands := lays.stands.append keeps
        card := total
        owns := owns }

theorem openPath_spec {state : κ} {lastError : Option WString} {cells : Cells}
    (keeps : KeepsGlobal lastGlobalErrorStr lastError global) (path : Option CString) :
    Spec state (global + cells) (Session.openPath kernel locale lastGlobalErrorStr path)
      (Opened lastGlobalErrorStr cells (Device.openPath kernel locale path state)) := by
  refine Spec.bind (Spec.onMemory (strdup_spec path)) ?_
  rintro _ _ _ ⟨⟨name, rfl, chars, rfl⟩, same⟩
  rw [same]
  refine Spec.permute (global + (name.cells .text + cells)) (by abel)
    (Spec.bind (hidOpenPath_spec keeps name) ?_)
  rintro dev _ _ ⟨reached, fresh, box, rfl, outcome⟩
  refine Spec.permute (name.cells .text + (fresh + (box + cells))) (by abel)
    (Spec.bind (Spec.onMemory (free_spec .text name)) ?_)
  rintro _ _ _ ⟨rfl, same⟩
  rw [chars] at reached outcome
  exact Spec.pure ⟨same.trans reached, fresh, box, rfl, outcome⟩

theorem Lays.close (lays : Lays frame lastGlobalErrorStr desk session slots global shelf lost)
    {handle : Nat} {device : Device} (there : desk.device handle = some device) :
    Follows frame lastGlobalErrorStr (Session.onHandle handle fun dev => do
      hidClose kernel locale lastGlobalErrorStr dev
      return .nothing) session (.nothing, desk.close kernel locale handle device) := by
  obtain ⟨dev, pointer, slot⟩ := lays.slot there
  obtain ⟨box, rest, keeps, rfl, -, freed⟩ := lays.stands.take slot
  have spec : Spec desk.kernel (box + (global + (rest + lost)))
      (do
        hidClose kernel locale lastGlobalErrorStr dev
        return Answer.nothing)
      fun value after left => value = .nothing ∧
        after = (kernel.close device.deviceHandle desk.kernel).2 ∧
        ∃ fresh, KeepsGlobal lastGlobalErrorStr
          (if (kernel.close device.deviceHandle desk.kernel).1 then none
            else some (wideOf locale (errorText kernel after))) fresh ∧
          left = fresh + (rest + lost) := by
    refine Spec.bind (hidClose_spec keeps lays.error) ?_
    rintro _ _ _ ⟨same, fresh, error, rfl⟩
    exact Spec.pure ⟨rfl, same, fresh, error, rfl⟩
  obtain ⟨_, after, _, ran, owns, rfl, reached, fresh, error, rfl⟩ := lays.process (by abel) spec
  refine ⟨{ session with process := after }, ?_, slots.set handle (dev, none), fresh, rest, lost,
    ?_⟩
  · rw [Session.onHandle, Action.run_bind_ok (Action.run_read session), pointer]
    exact ran
  · rw [reached] at error
    exact {
      handles := by rw [map_fst_set slot, lays.handles]
      devices := by rw [Desk.close, lays.devices, List.map_set]
      kernel := reached
      error := error
      stands := freed
      card := lays.card
      owns := owns }

/-- A call on the last global error. -/
theorem Lays.onGlobal (lays : Lays frame lastGlobalErrorStr desk session slots global shelf lost)
    {action : Action Stop (Process κ) Answer} {answer : Answer} {lastError : Option WString}
    (spec : Spec desk.kernel (global + (shelf + lost)) action fun value after left =>
      value = answer ∧ after = desk.kernel ∧
        ∃ fresh, KeepsGlobal lastGlobalErrorStr lastError fresh ∧ left = fresh + (shelf + lost)) :
    Follows frame lastGlobalErrorStr (Session.onProcess action) session
      (answer, { desk with lastGlobalError := lastError }) := by
  obtain ⟨_, after, _, ran, owns, rfl, reached, fresh, error, rfl⟩ := lays.process rfl spec
  exact ⟨{ session with process := after }, ran, slots, fresh, shelf, lost,
    ⟨lays.handles, lays.devices, reached, error, lays.stands, lays.card, owns⟩⟩

/-- Every call that names an open device follows the table. -/
theorem call_follows (attributed : ∀ state, ∀ visited ∈ listed kernel state, visited.1.Attributed)
    (represents : Represents frame lastGlobalErrorStr desk session) {next : Call}
    {step : Answer × Desk κ} (called : desk.call kernel locale next = some step) :
    Follows frame lastGlobalErrorStr (Session.call kernel locale lastGlobalErrorStr next)
      session step := by
  obtain ⟨slots, global, shelf, lost, lays⟩ := represents
  cases next with
  | openPath path =>
      cases called
      apply lays.issue
      apply (openPath_spec lays.error path).weaken
      intro dev after left opened
      exact ⟨0, by rwa [Multiset.zero_add], rfl⟩
  | openDevice vendorId productId serialNumber =>
      cases called
      exact lays.issue (hidOpen_spec lays.error (attributed desk.kernel) vendorId productId
        serialNumber)
  | write handle data =>
      obtain ⟨device, there, same⟩ := Option.bind_eq_some_iff.mp called
      cases same
      apply lays.onHandle there
      intro dev box cells keeps
      refine Spec.bind (hidWrite_spec keeps data) ?_
      rintro _ _ _ ⟨rfl, reached, kept⟩
      exact Spec.pure ⟨rfl, reached, kept⟩
  | readTimeout handle length milliseconds =>
      obtain ⟨device, there, same⟩ := Option.bind_eq_some_iff.mp called
      cases same
      apply lays.onHandle there
      intro dev box cells keeps
      refine Spec.bind (hidReadTimeout_spec keeps length milliseconds) ?_
      rintro _ _ _ ⟨rfl, reached, kept⟩
      exact Spec.pure ⟨rfl, reached, kept⟩
  | read handle length =>
      obtain ⟨device, there, same⟩ := Option.bind_eq_some_iff.mp called
      cases same
      apply lays.onHandle there
      intro dev box cells keeps
      refine Spec.bind (hidRead_spec keeps length) ?_
      rintro _ _ _ ⟨rfl, reached, kept⟩
      exact Spec.pure ⟨rfl, reached, kept⟩
  | setNonblocking handle nonblock =>
      obtain ⟨device, there, same⟩ := Option.bind_eq_some_iff.mp called
      cases same
      apply lays.onHandle there
      intro dev box cells keeps
      refine Spec.bind (hidSetNonblocking_spec keeps nonblock) ?_
      rintro _ _ _ ⟨-, reached, kept⟩
      exact Spec.pure ⟨rfl, reached, kept⟩
  | error handle =>
      cases handle with
      | none =>
          cases called
          apply lays.onGlobal
          refine Spec.bind (hidErrorGlobal_spec lays.error) ?_
          rintro _ _ _ ⟨rfl, same, rfl⟩
          exact Spec.pure ⟨rfl, same, global, lays.error, rfl⟩
      | some handle =>
          obtain ⟨device, there, same⟩ := Option.bind_eq_some_iff.mp called
          cases same
          exact lays.onHandle_read there
  | close handle =>
      obtain ⟨device, there, same⟩ := Option.bind_eq_some_iff.mp called
      cases same
      exact lays.close there
  | exit =>
      cases called
      apply lays.onGlobal
      refine Spec.bind (registerGlobal_spec lays.error none) ?_
      rintro _ _ _ ⟨same, fresh, error, rfl⟩
      exact Spec.pure ⟨rfl, same, fresh, error, rfl⟩

/-- Every run that names open devices only. -/
theorem run_follows (attributed : ∀ state, ∀ visited ∈ listed kernel state, visited.1.Attributed)
    (calls : List Call) (represents : Represents frame lastGlobalErrorStr desk session)
    {answers : List Answer} {final : Desk κ}
    (ran : desk.run kernel locale calls = some (answers, final)) :
    ∃ after, (Session.run kernel locale lastGlobalErrorStr calls).run session =
        (.ok answers, after) ∧ Represents frame lastGlobalErrorStr final after := by
  induction calls generalizing desk session answers with
  | nil =>
      cases ran
      exact ⟨session, rfl, represents⟩
  | cons next calls inductionHypothesis =>
      obtain ⟨⟨answer, between⟩, called, rest⟩ := Option.bind_eq_some_iff.mp ran
      obtain ⟨⟨later, reached⟩, ranLater, same⟩ := Option.bind_eq_some_iff.mp rest
      cases same
      obtain ⟨middle, stepped, represented⟩ := call_follows attributed represents called
      obtain ⟨after, followed, final⟩ := inductionHypothesis represented ranLater
      refine ⟨after, ?_, final⟩
      rw [Session.run, Action.run_bind_ok stepped, Action.run_bind_ok followed]
      rfl

end Steps

/-! ## Runs from the start -/

/-- No device has been opened. -/
def Desk.start {κ : Type} (state : κ) : Desk κ := ⟨state, [], none, 0⟩

/-- All blocks but one. -/
def allBut (memory : Memory) (address : Nat) (other : Nat) : Option Block :=
  if other = address then none else memory.block other

section Runs

variable {κ : Type} {kernel : Kernel κ} {locale : Locale} {lastGlobalErrorStr : Nat}

theorem represents_start (process : Process κ)
    (cleared : process.memory.block lastGlobalErrorStr = some (.pointer none)) :
    Represents (allBut process.memory lastGlobalErrorStr) lastGlobalErrorStr
      (Desk.start process.kernel) ⟨process, []⟩ := by
  refine ⟨[], globalCells lastGlobalErrorStr none, 0, 0, rfl, rfl, rfl, ⟨none, rfl, rfl⟩, .nil,
    rfl, ?_⟩
  have cells : globalCells lastGlobalErrorStr none + (0 + 0) =
      {(lastGlobalErrorStr, Block.pointer none)} := rfl
  rw [cells]
  refine ⟨by simp, ?_, ?_, ?_⟩
  · intro cell there
    rw [Multiset.mem_singleton.mp there, allBut, if_pos rfl]
  · intro cell there
    rw [Multiset.mem_singleton.mp there]
    exact cleared
  · intro address outside
    have differ : address ≠ lastGlobalErrorStr := by simpa using outside
    rw [allBut, if_neg differ]

/-- A kernel that lists one device and answers every call. -/
def calmKernel : Kernel (List Int) where
  openFile _ files := (3 + files.length, (3 + files.length) :: files)
  descriptorSize _ files := (some 2, files)
  descriptor _ _ files := (some [0x85, 1], files)
  write _ data files := (some data.length, files)
  poll _ _ files := (.ready false, files)
  read _ _ files := (some [1, 7], files)
  close descriptor files := (true, files.erase descriptor)
  devices files := (some [(pairedDevice, ⟨0, 0, 0⟩)], files)
  errno _ := 0
  strerror _ := []

theorem calmKernel_attributed (files : List Int) :
    ∀ visited ∈ listed calmKernel files, visited.1.Attributed :=
  pairedDevice_attributed _

/-- A process that has made no call, with its variable at the address 0. -/
def newProcess : Process (List Int) where
  memory :=
    { block := fun address => if address = 0 then some (.pointer none) else none
      next := 1
      fresh := fun _ above => if_neg (Nat.ne_of_gt above) }
  kernel := []

/-- A run that reads one report of the device. -/
def oneReport : List Call :=
  [.openDevice 0x2c97 1 none, .write 0 [1, 2], .read 0 64, .error (some 0), .close 0]

def oneReportAnswers : List Answer :=
  [.opened (some 0), .result 2 [], .result 2 [1, 7], .text none, .nothing]

theorem exists_oneReport : ∃ final : Desk (List Int),
    (Desk.start newProcess.kernel).run calmKernel some oneReport =
      some (oneReportAnswers, final) ∧
    final.devices = [none] ∧ final.lastGlobalError = none ∧ final.lost = 1 := by
  have ran : ((Desk.start newProcess.kernel).run calmKernel some oneReport).map
      (fun ended => (ended.1, ended.2.devices, ended.2.lastGlobalError, ended.2.lost)) =
      some (oneReportAnswers, [none], none, 1) := by
    decide +kernel
  obtain ⟨⟨answers, final⟩, ran, same⟩ := Option.map_eq_some_iff.mp ran
  simp only [Prod.mk.injEq] at same
  obtain ⟨rfl, devices, error, lost⟩ := same
  exact ⟨final, ran, devices, error, lost⟩

theorem shelf_of_closed {slots : List (Nat × Option Device)} {cells : Cells}
    (shelf : Shelf slots cells) (closed : ∀ kept ∈ slots.map Prod.snd, kept = none) :
    cells = 0 := by
  induction shelf with
  | nil => rfl
  | opened _ _ _ => cases closed _ List.mem_cons_self
  | closed _ inductionHypothesis =>
      exact inductionHypothesis fun kept there => closed kept (List.mem_cons_of_mem _ there)

end Runs

end MhWallet.Hid
