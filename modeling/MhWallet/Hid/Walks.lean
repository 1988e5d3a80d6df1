import MhWallet.Hid.Listing

/-!
Contract: what `hid_enumerate` returns, and what becomes of it.

Owns: the specifications of all functions that walk along the list, and that every
record is freed once, whether as a list or one by one.

Does not own: the opening of a device.
-/

namespace MhWallet.Hid

open MhWallet.Effect MhWallet.Text

/-! ## Walks along the list -/

section Walks

variable {cells : Cells}

theorem freeRecord_spec (stored : Stored) (next : Option Nat) :
    Heap.Triple (stored.cells next + cells)
      (freeRecord stored.address (stored.record next)) fun _ left => left = cells := by
  unfold freeRecord
  refine Heap.Triple.permute (stored.path.cells .text +
    (stored.serialNumber.cells .wide + (stored.manufacturerString.cells .wide +
      (stored.productString.cells .wide +
        ((stored.address, .info (stored.record next)) ::ₘ cells))))) ?_ ?_
  · rw [Stored.cells, Stored.strings]
    simp only [← Multiset.singleton_add]
    abel
  refine Heap.Triple.bind (free_spec .text stored.path) ?_
  rintro - left rfl
  refine Heap.Triple.bind (free_spec .wide stored.serialNumber) ?_
  rintro - left rfl
  refine Heap.Triple.bind (free_spec .wide stored.manufacturerString) ?_
  rintro - left rfl
  refine Heap.Triple.bind (free_spec .wide stored.productString) ?_
  rintro - left rfl
  exact Heap.Triple.free

/-- The record at the head of a list. -/
theorem loadFirst_spec (stored : Stored) (list : List Stored) :
    Heap.Triple (listCells (stored :: list) none + cells)
      (loadAs Block.asInfo stored.address) fun record left =>
        record = stored.record (first list) ∧
          left = stored.cells (first list) + (listCells list none + cells) := by
  refine Heap.Triple.permute ((stored.address, .info (stored.record (first list))) ::ₘ
    (stored.strings + (listCells list none + cells))) ?_ ?_
  · rw [listCells_cons, Stored.cells]
    simp only [← Multiset.singleton_add]
    abel
  refine Heap.Triple.weaken (loadAs_spec rfl) ?_
  rintro _ left ⟨rfl, rfl⟩
  exact ⟨rfl, by rw [Stored.cells, Multiset.cons_add]⟩

/-- The blocks of a record put behind those of the records after it. -/
theorem cells_add_listCells (stored : Stored) (list : List Stored) (next : Option Nat) :
    stored.cells next + (listCells list none + cells) =
      listCells list none + (stored.cells next + cells) := by abel

theorem listCells_cons_add (stored : Stored) (list : List Stored) :
    listCells (stored :: list) none + cells =
      listCells list none + (stored.cells (first list) + cells) := by
  rw [listCells_cons]
  abel

theorem freeRecords_spec (list : List Stored) {rounds : Nat} (enough : list.length ≤ rounds) :
    Heap.Triple (listCells list none + cells) (freeRecords rounds (first list))
      fun _ left => left = cells := by
  induction list generalizing rounds with
  | nil =>
      rw [show first [] = none from rfl, freeRecords]
      exact Heap.Triple.pure (by simp)
  | cons stored list inductionHypothesis =>
      cases rounds with
      | zero => cases enough
      | succ rounds =>
          refine Heap.Triple.bind (loadFirst_spec stored list) ?_
          rintro _ left ⟨rfl, rfl⟩
          refine Heap.Triple.bind (freeRecord_spec stored _) ?_
          rintro - left rfl
          exact inductionHypothesis (Nat.le_of_succ_le_succ enough)

theorem length_le_card (list : List Stored) :
    list.length ≤ (listCells list none + cells).card := by
  rw [Multiset.card_add]
  have links := Heap.length_le_card_chain (list.map Stored.link) none
  rw [List.length_map] at links
  exact Nat.le_trans links (Nat.le_add_right _ _)

/-- `hid_free_enumeration` frees every block of the list. -/
theorem hidFreeEnumeration_spec (list : List Stored) :
    Heap.Triple (listCells list none + cells) (hidFreeEnumeration (first list))
      fun _ left => left = cells := by
  apply Heap.Triple.bounded
  intro rounds enough
  exact freeRecords_spec list (Nat.le_trans (length_le_card list) enough)

/-- A record that `hid_open` takes. -/
def Info.fits (vendorId productId : UInt16) (serialNumber : Option WString) (info : Info) :
    Bool :=
  info.vendorId == vendorId && info.productId == productId &&
    serialNumber.all fun wanted => info.serialNumber == some wanted

theorem recordFits_spec (vendorId productId : UInt16) (serialNumber : Option WString)
    {stored : Stored} (numbered : stored.serialNumber.chars ≠ none) (next : Option Nat) :
    Heap.Triple (stored.cells next + cells)
      (recordFits vendorId productId serialNumber (stored.record next)) fun fit left =>
        fit = stored.info.fits vendorId productId serialNumber ∧
          left = stored.cells next + cells := by
  unfold recordFits
  split
  next ids =>
    have same : stored.vendorId = vendorId ∧ stored.productId = productId := ids
    cases serialNumber with
    | none => exact Heap.Triple.pure ⟨by simp [Info.fits, Stored.info, same], rfl⟩
    | some wanted =>
        obtain ⟨own, serial⟩ := Option.ne_none_iff_exists'.mp numbered
        have shape : stored.cells next + cells = stored.serialNumber.cells .wide +
            ((stored.address, .info (stored.record next)) ::ₘ (stored.path.cells .text +
              (stored.manufacturerString.cells .wide +
                (stored.productString.cells .wide + cells)))) := by
          rw [Stored.cells, Stored.strings]
          simp only [← Multiset.singleton_add]
          abel
        rw [shape]
        refine Heap.Triple.bind (loadString_spec (fun _ => rfl) stored.serialNumber) ?_
        rintro _ left ⟨rfl, rfl⟩
        rw [serial]
        refine Heap.Triple.pure ⟨?_, rfl⟩
        simp [Info.fits, Stored.info, same, serial, Bool.beq_eq_decide_eq, eq_comm]
  next differ =>
    have other : ¬(stored.vendorId = vendorId ∧ stored.productId = productId) := differ
    refine Heap.Triple.pure ⟨?_, rfl⟩
    rw [eq_comm, Bool.eq_false_iff]
    intro fit
    simp only [Info.fits, Stored.info, Bool.and_eq_true, beq_iff_eq] at fit
    exact other fit.1

/-- The search reads the list up to the first record that fits. -/
theorem findPath_spec (vendorId productId : UInt16) (serialNumber : Option WString)
    (list : List Stored) (numbered : ∀ stored ∈ list, stored.serialNumber.chars ≠ none)
    {rounds : Nat} (enough : list.length ≤ rounds) :
    Heap.Triple (listCells list none + cells)
      (findPath vendorId productId serialNumber rounds (first list)) fun path left =>
        path = (list.find? fun stored =>
          stored.info.fits vendorId productId serialNumber).bind (·.path.pointer) ∧
          left = listCells list none + cells := by
  induction list generalizing rounds cells with
  | nil =>
      rw [show first [] = none from rfl, findPath]
      exact Heap.Triple.pure ⟨rfl, rfl⟩
  | cons stored list inductionHypothesis =>
      cases rounds with
      | zero => cases enough
      | succ rounds =>
          refine Heap.Triple.bind (loadFirst_spec stored list) ?_
          rintro _ left ⟨rfl, rfl⟩
          refine Heap.Triple.bind (recordFits_spec vendorId productId serialNumber
            (numbered stored List.mem_cons_self) (first list)) ?_
          rintro _ left ⟨rfl, rfl⟩
          rw [listCells_cons_add, cells_add_listCells]
          split
          next fit =>
            rw [List.find?_cons_of_pos (by exact fit)]
            exact Heap.Triple.pure ⟨rfl, rfl⟩
          next unfit =>
            rw [List.find?_cons_of_neg (by exact unfit)]
            exact inductionHypothesis
              (fun other there => numbered other (List.mem_cons_of_mem _ there))
              (Nat.le_of_succ_le_succ enough)

/-- The vector has the records of the list, in its order. -/
theorem collectInfos_spec (list : List Stored) {rounds : Nat} (enough : list.length ≤ rounds) :
    Heap.Triple (listCells list none + cells) (collectInfos rounds (first list))
      fun infos left => infos = list.map Stored.address ∧ left = listCells list none + cells := by
  induction list generalizing rounds cells with
  | nil =>
      rw [show first [] = none from rfl, collectInfos]
      exact Heap.Triple.pure ⟨rfl, rfl⟩
  | cons stored list inductionHypothesis =>
      cases rounds with
      | zero => cases enough
      | succ rounds =>
          refine Heap.Triple.bind (loadFirst_spec stored list) ?_
          rintro _ left ⟨rfl, rfl⟩
          rw [listCells_cons_add, cells_add_listCells]
          refine Heap.Triple.bind (inductionHypothesis (Nat.le_of_succ_le_succ enough)) ?_
          rintro _ left ⟨rfl, rfl⟩
          exact Heap.Triple.pure ⟨rfl, rfl⟩

/-- Each record with the pointer it holds to the next one. -/
def nodes : List Stored → List (Stored × Option Nat)
  | [] => []
  | stored :: list => (stored, first list) :: nodes list

def nodeCells (parts : List (Stored × Option Nat)) : Cells :=
  (parts.map fun part => part.1.cells part.2).sum

theorem listCells_eq (list : List Stored) : listCells list none = nodeCells (nodes list) := by
  induction list with
  | nil => rfl
  | cons stored list inductionHypothesis =>
      rw [listCells_cons, inductionHypothesis]
      rfl

/-- The deleters free the records in whatever order they run. -/
theorem deleteInfos_spec (parts : List (Stored × Option Nat)) :
    Heap.Triple (nodeCells parts + cells) (deleteInfos (parts.map (·.1.address)))
      fun _ left => left = cells := by
  induction parts with
  | nil => exact Heap.Triple.pure (by simp [nodeCells])
  | cons part parts inductionHypothesis =>
      refine Heap.Triple.permute ((part.1.address, .info (part.1.record part.2)) ::ₘ
        (part.1.strings + (nodeCells parts + cells))) ?_ ?_
      · simp only [nodeCells, List.map_cons, List.sum_cons, Stored.cells,
          ← Multiset.singleton_add]
        abel
      refine Heap.Triple.bind (loadAs_spec rfl) ?_
      rintro _ left ⟨rfl, rfl⟩
      rw [← Multiset.cons_add]
      refine Heap.Triple.bind (freeRecord_spec part.1 part.2) ?_
      rintro - left rfl
      exact inductionHypothesis

end Walks

/-! ## Whole calls -/

section Calls

variable (locale : Locale) (lastGlobalErrorStr : Nat) (vendorId productId : UInt16)

theorem hidEnumerate_spec (visits : List (UdevDevice × HidId))
    (attributed : ∀ visited ∈ visits, visited.1.Attributed) :
    Heap.Triple 0 (hidEnumerate locale lastGlobalErrorStr vendorId productId (some visits))
      fun devs left => ∃ list lost, devs = first list ∧
        list.map Stored.info =
          visits.filterMap (fun visited => visited.1.describe locale vendorId productId) ∧
        left = listCells list none + lost ∧
        lost.card = (visits.map fun visited => visited.1.lost).sum := by
  refine Heap.Triple.bind (visits_spec locale vendorId productId visits attributed []) ?_
  rintro _ left ⟨list, lost, rfl, infos, rfl, card⟩
  exact Heap.Triple.pure ⟨list, lost, rfl, infos, rfl, card⟩

/-- A Bluetooth device whose text repeats the name. -/
def pairedDevice : UdevDevice where
  devNode := some "/dev/hidraw0".toList
  hidDevice := some (some
    "HID_ID=0005:00002C97:00000001\nHID_NAME=Nano\nHID_NAME=Nano X\nHID_UNIQ=1".toList)
  usbDevice := none
  usbInterface := none

theorem pairedDevice_attributed (garbage : HidId) :
    ∀ visited ∈ [(pairedDevice, garbage)], visited.1.Attributed := by
  intro visited there
  rw [List.mem_singleton.mp there]
  simp [UdevDevice.Attributed, pairedDevice]

theorem enumerateDevices_spec (visits : List (UdevDevice × HidId))
    (attributed : ∀ visited ∈ visits, visited.1.Attributed) :
    Heap.Triple 0 (enumerateDevices locale lastGlobalErrorStr vendorId productId (some visits))
      fun infos left => ∃ list lost, infos = list.map Stored.address ∧
        list.map Stored.info =
          visits.filterMap (fun visited => visited.1.describe locale vendorId productId) ∧
        left = listCells list none + lost ∧
        lost.card = (visits.map fun visited => visited.1.lost).sum := by
  refine Heap.Triple.bind (hidEnumerate_spec locale lastGlobalErrorStr vendorId productId
    visits attributed) ?_
  rintro _ left ⟨list, lost, rfl, infos, rfl, card⟩
  apply Heap.Triple.bounded
  intro rounds enough
  refine (collectInfos_spec list (Nat.le_trans (length_le_card list) enough)).weaken ?_
  rintro _ left ⟨rfl, rfl⟩
  exact ⟨list, lost, rfl, infos, rfl, card⟩

theorem map_nodes (list : List Stored) :
    (nodes list).map (·.1.address) = list.map Stored.address := by
  induction list with
  | nil => rfl
  | cons stored list inductionHypothesis => simp [nodes, inductionHypothesis]

/-- The identifiers select from the records of all devices. -/
theorem describe_eq_filter (device : UdevDevice) :
    device.describe locale vendorId productId =
      (device.describe locale 0 0).filter fun info =>
        Hidapi.idMatches vendorId info.vendorId &&
          Hidapi.idMatches productId info.productId := by
  unfold UdevDevice.describe
  rcases device.hidDevice with - | - | uevent
  · rfl
  · rfl
  dsimp only
  generalize Uevent.parse ⟨0, 0, 0⟩ uevent = found
  have ids : ∀ info ∈ device.report locale found,
      info.vendorId = found.id.vendorId ∧ info.productId = found.id.productId := by
    intro info reported
    unfold UdevDevice.report at reported
    split at reported
    next =>
      obtain ⟨usb, -, rfl⟩ := Option.map_eq_some_iff.mp reported
      exact ⟨rfl, rfl⟩
    next =>
      cases reported
      exact ⟨rfl, rfl⟩
  have all : wants 0 0 found.id = (found.id.busType == busUsb ||
      found.id.busType == busBluetooth) := by
    simp [wants, Hidapi.idMatches]
  rw [all, wants, ← Bool.and_assoc]
  cases found.result && (found.id.busType == busUsb || found.id.busType == busBluetooth) with
  | false => rfl
  | true =>
      rw [Bool.true_and, if_pos rfl]
      cases reported : device.report locale found with
      | none => split <;> rfl
      | some info =>
          rw [Option.filter_some, (ids info reported).1, (ids info reported).2]

end Calls

end MhWallet.Hid
