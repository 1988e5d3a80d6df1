import MhWallet.Hid.Refinement

/-!
Contract: the file descriptors that runs of calls of `linux/hid.c` leave open.

`hid_open_path` takes a descriptor for good only where it is positive, so a file that
gets the descriptor 0 is never closed.

Owns: the account of all descriptors over any run.

Does not own: which descriptors the kernel gives out.
-/

namespace MhWallet.Hid

open MhWallet.Effect MhWallet.Text

variable {κ : Type}

/-- The open descriptors in each state of the kernel: `open` adds the one it returns,
`close` removes its argument, and no other call changes them. -/
structure Table (kernel : Kernel κ) where
  descriptors : κ → Multiset Int
  openFile : ∀ path state, descriptors (kernel.openFile path state).2 =
    if 0 ≤ (kernel.openFile path state).1 then
      (kernel.openFile path state).1 ::ₘ descriptors state
    else descriptors state
  close : ∀ descriptor state,
    descriptors (kernel.close descriptor state).2 = (descriptors state).erase descriptor
  descriptorSize : ∀ descriptor state,
    descriptors (kernel.descriptorSize descriptor state).2 = descriptors state
  descriptor : ∀ descriptor size state,
    descriptors (kernel.descriptor descriptor size state).2 = descriptors state
  write : ∀ descriptor data state,
    descriptors (kernel.write descriptor data state).2 = descriptors state
  poll : ∀ descriptor timeout state,
    descriptors (kernel.poll descriptor timeout state).2 = descriptors state
  read : ∀ descriptor length state,
    descriptors (kernel.read descriptor length state).2 = descriptors state
  devices : ∀ state, descriptors (kernel.devices state).2 = descriptors state

/-- The descriptors of the devices that are open. -/
def openHandles (devices : List (Option Device)) : Multiset Int :=
  ((devices.filterMap fun kept => kept.map Device.deviceHandle : List Int) : Multiset Int)

theorem openHandles_append (devices : List (Option Device)) (device : Device) :
    openHandles (devices ++ [some device]) = device.deviceHandle ::ₘ openHandles devices := by
  rw [openHandles, List.filterMap_append, ← Multiset.coe_add, Multiset.add_comm]
  rfl

theorem openHandles_set {devices : List (Option Device)} {handle : Nat} {device : Device}
    (there : devices[handle]? = some (some device)) :
    openHandles devices = device.deviceHandle ::ₘ openHandles (devices.set handle none) ∧
      ∀ other : Device, other.deviceHandle = device.deviceHandle →
        openHandles (devices.set handle (some other)) = openHandles devices := by
  induction devices generalizing handle with
  | nil => cases there
  | cons kept devices inductionHypothesis =>
      cases handle with
      | zero =>
          cases there
          refine ⟨rfl, ?_⟩
          intro other same
          simp [openHandles, same]
      | succ handle =>
          obtain ⟨removed, replaced⟩ := inductionHypothesis there
          have shift : ∀ devices, openHandles (kept :: devices) =
              openHandles [kept] + openHandles devices := by
            intro devices
            cases kept <;> rfl
          refine ⟨?_, ?_⟩
          · rw [List.set_cons_succ, shift, removed, shift (devices.set handle none),
              Multiset.add_cons]
          · intro other same
            rw [List.set_cons_succ, shift, replaced other same, shift devices]

section Steps

variable {kernel : Kernel κ} {locale : Locale} (table : Table kernel)

/-- A step on a device leaves its descriptor, and which descriptors are open. -/
def Undisturbed {α : Type} (device : Device) (state : κ) (step : α × Device × κ) : Prop :=
  step.2.1.deviceHandle = device.deviceHandle ∧
    table.descriptors step.2.2 = table.descriptors state

theorem undisturbed_write (device : Device) (data : Bytes) (state : κ) :
    Undisturbed table device state (device.write kernel locale data state) := by
  have kept := table.write device.deviceHandle data state
  unfold Device.write
  generalize kernel.write device.deviceHandle data state = answer at kept ⊢
  rcases answer with ⟨- | written, after⟩
  · exact ⟨rfl, kept⟩
  · exact ⟨rfl, kept⟩

theorem undisturbed_report (device : Device) (length : Nat) (state : κ) :
    Undisturbed table device state (device.report kernel locale length state) := by
  have kept := table.read device.deviceHandle length state
  unfold Device.report
  generalize kernel.read device.deviceHandle length state = answer at kept ⊢
  rcases answer with ⟨- | data, after⟩
  · dsimp only
    split
    next => exact ⟨rfl, kept⟩
    next => exact ⟨rfl, kept⟩
  · exact ⟨rfl, kept⟩

theorem undisturbed_readTimeout (device : Device) (length : Nat) (milliseconds : Int)
    (state : κ) : Undisturbed table device state
      (device.readTimeout kernel locale length milliseconds state) := by
  unfold Device.readTimeout
  split
  next =>
    have kept := table.poll device.deviceHandle milliseconds state
    generalize kernel.poll device.deviceHandle milliseconds state = answer at kept ⊢
    rcases answer with ⟨- | - | - | -, after⟩
    · exact ⟨rfl, kept⟩
    · exact ⟨rfl, kept⟩
    · have read : Undisturbed table device after (device.report kernel locale length after) :=
        undisturbed_report table device length after
      exact ⟨read.1, read.2.trans kept⟩
    · exact ⟨rfl, kept⟩
  next => exact undisturbed_report table device length state

theorem undisturbed_setUp (deviceHandle : Int) (state : κ) :
    (Device.setUp kernel locale deviceHandle state).1.deviceHandle = deviceHandle ∧
      table.descriptors (Device.setUp kernel locale deviceHandle state).2 =
        table.descriptors state := by
  have first := table.descriptorSize deviceHandle state
  unfold Device.setUp
  rcases sized : kernel.descriptorSize deviceHandle state with ⟨size, between⟩
  have second := table.descriptor deviceHandle (size.getD 0) between
  rcases described : kernel.descriptor deviceHandle (size.getD 0) between with ⟨value, after⟩
  rw [sized] at first
  rw [described] at second
  simp only [described]
  cases value with
  | none => exact ⟨rfl, second.trans first⟩
  | some value => exact ⟨rfl, second.trans first⟩

/-- An attempt to open a file adds the descriptor of the device, or none, or 0. -/
theorem descriptors_openPath (path : Option CString) (state : κ) :
    match Device.openPath kernel locale path state with
    | (.ok device, after) =>
        table.descriptors after = device.deviceHandle ::ₘ table.descriptors state
    | (.error _, after) => table.descriptors after = table.descriptors state ∨
        table.descriptors after = 0 ::ₘ table.descriptors state := by
  have opened := table.openFile path state
  unfold Device.openPath
  generalize kernel.openFile path state = answer at opened ⊢
  rcases answer with ⟨deviceHandle, between⟩
  dsimp only at opened ⊢
  by_cases positive : 0 < deviceHandle
  · rw [if_pos (Int.le_of_lt positive)] at opened
    simp only [if_pos positive]
    obtain ⟨handle, kept⟩ := undisturbed_setUp table deviceHandle between
    rw [handle, kept, opened]
  · simp only [if_neg positive]
    split at opened
    next nonnegative =>
      have zero : deviceHandle = 0 := by omega
      exact .inr (zero ▸ opened)
    next => exact .inl opened

theorem descriptors_openMatching (vendorId productId : UInt16)
    (serialNumber : Option WString) (state : κ) :
    match Device.openMatching kernel locale vendorId productId serialNumber state with
    | (.ok device, after) =>
        table.descriptors after = device.deviceHandle ::ₘ table.descriptors state
    | (.error _, after) => table.descriptors after = table.descriptors state ∨
        table.descriptors after = 0 ::ₘ table.descriptors state := by
  have kept := table.devices state
  unfold Device.openMatching
  generalize kernel.devices state = answer at kept ⊢
  rcases answer with ⟨udev, between⟩
  dsimp only at kept ⊢
  rw [← kept]
  generalize udev.bind (Device.findPath locale vendorId productId serialNumber) = found
  cases found with
  | none => exact .inl rfl
  | some path => exact descriptors_openPath table (some path) between

/-- The open descriptors are those from before, those of the open devices, and zeros. -/
def Balanced (before : Multiset Int) (desk : Desk κ) : Prop :=
  ∃ zeros, table.descriptors desk.kernel =
    before + (openHandles desk.devices + Multiset.replicate zeros 0)

variable {table} {before : Multiset Int} {desk : Desk κ}

theorem Balanced.issue (balanced : Balanced table before desk)
    {answer : Except WString Device × κ}
    (opened : match answer with
      | (.ok device, after) =>
          table.descriptors after = device.deviceHandle ::ₘ table.descriptors desk.kernel
      | (.error _, after) => table.descriptors after = table.descriptors desk.kernel ∨
          table.descriptors after = 0 ::ₘ table.descriptors desk.kernel) (lost : Nat) :
    Balanced table before (desk.issue answer lost).2 := by
  obtain ⟨zeros, account⟩ := balanced
  rcases answer with ⟨message | device, after⟩
  · rcases opened with same | zero
    · exact ⟨zeros, same.trans account⟩
    · refine ⟨zeros + 1, zero.trans ?_⟩
      rw [account, Multiset.replicate_succ, Multiset.add_cons, Multiset.add_cons]
      rfl
  · refine ⟨zeros, opened.trans ?_⟩
    rw [account, Desk.issue]
    dsimp only
    rw [openHandles_append, Multiset.cons_add, Multiset.add_cons]

theorem Balanced.place (balanced : Balanced table before desk) {handle : Nat} {device : Device}
    (there : desk.device handle = some device) {step : Answer × Device × κ}
    (undisturbed : Undisturbed table device desk.kernel step) :
    Balanced table before (desk.place handle step).2 := by
  obtain ⟨zeros, account⟩ := balanced
  refine ⟨zeros, undisturbed.2.trans ?_⟩
  rw [account, Desk.place]
  dsimp only
  rw [(openHandles_set (Option.join_eq_some_iff.mp there)).2 _ undisturbed.1]

theorem Balanced.close (balanced : Balanced table before desk) {handle : Nat} {device : Device}
    (there : desk.device handle = some device) :
    Balanced table before (desk.close kernel locale handle device) := by
  obtain ⟨zeros, account⟩ := balanced
  refine ⟨zeros, ?_⟩
  show table.descriptors (kernel.close device.deviceHandle desk.kernel).2 = _
  rw [table.close, account, (openHandles_set (Option.join_eq_some_iff.mp there)).1,
    Multiset.cons_add, Multiset.add_cons, Multiset.erase_cons_head]
  rfl

theorem Balanced.call (balanced : Balanced table before desk) {next : Call}
    {step : Answer × Desk κ} (called : desk.call kernel locale next = some step) :
    Balanced table before step.2 := by
  cases next with
  | openPath path =>
      cases called
      exact balanced.issue (descriptors_openPath table path desk.kernel) 0
  | openDevice vendorId productId serialNumber =>
      cases called
      exact balanced.issue
        (descriptors_openMatching table vendorId productId serialNumber desk.kernel) _
  | write handle data =>
      obtain ⟨device, there, same⟩ := Option.bind_eq_some_iff.mp called
      cases same
      exact balanced.place there (undisturbed_write table device data desk.kernel)
  | readTimeout handle length milliseconds =>
      obtain ⟨device, there, same⟩ := Option.bind_eq_some_iff.mp called
      cases same
      exact balanced.place there
        (undisturbed_readTimeout table device length milliseconds desk.kernel)
  | read handle length =>
      obtain ⟨device, there, same⟩ := Option.bind_eq_some_iff.mp called
      cases same
      exact balanced.place there (undisturbed_readTimeout table device length _ desk.kernel)
  | setNonblocking handle nonblock =>
      obtain ⟨device, there, same⟩ := Option.bind_eq_some_iff.mp called
      cases same
      exact balanced.place there ⟨rfl, rfl⟩
  | error handle =>
      cases handle with
      | none =>
          cases called
          exact balanced
      | some handle =>
          obtain ⟨device, there, same⟩ := Option.bind_eq_some_iff.mp called
          cases same
          exact balanced
  | close handle =>
      obtain ⟨device, there, same⟩ := Option.bind_eq_some_iff.mp called
      cases same
      exact balanced.close there
  | exit =>
      cases called
      exact balanced

theorem Balanced.run {calls : List Call} (balanced : Balanced table before desk)
    {answers : List Answer} {final : Desk κ}
    (ran : desk.run kernel locale calls = some (answers, final)) :
    Balanced table before final := by
  induction calls generalizing desk answers with
  | nil =>
      cases ran
      exact balanced
  | cons next calls inductionHypothesis =>
      obtain ⟨step, called, rest⟩ := Option.bind_eq_some_iff.mp ran
      obtain ⟨later, ranLater, same⟩ := Option.bind_eq_some_iff.mp rest
      cases same
      exact inductionHypothesis (balanced.call called) ranLater

end Steps

/-- The descriptors of a kernel that answers every call. -/
def calmTable : Table calmKernel where
  descriptors files := files
  openFile _ files := by
    have positive : (0 : Int) ≤ 3 + files.length := by omega
    exact (if_pos positive).symm
  close descriptor files := (Multiset.coe_erase files descriptor).symm
  descriptorSize _ _ := rfl
  descriptor _ _ _ := rfl
  write _ _ _ := rfl
  poll _ _ _ := rfl
  read _ _ _ := rfl
  devices _ := rfl

end MhWallet.Hid
