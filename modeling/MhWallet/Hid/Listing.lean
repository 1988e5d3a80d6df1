import Mathlib.Algebra.BigOperators.Group.List.Basic
import MhWallet.Hid.Copies

/-!
Contract: the list that the loop of `hid_enumerate` makes.

The list has one record for each device that matches, in the order of udev, with the
strings of its attributes.  Its blocks are the records and these strings; nothing else
stays allocated but the copies that a `uevent` text with a repeated key leaves behind.

Owns: the records that the devices call for, the list that stores them, and the
specification of every round of the loop.

Does not own: what walks along the list afterwards.
-/

namespace MhWallet.Hid

open MhWallet.Effect MhWallet.Text

/-! ## Records -/

/-- What a record of an enumeration says. -/
structure Info where
  path : Option CString
  vendorId : UInt16
  productId : UInt16
  serialNumber : Option WString
  releaseNumber : UInt16
  manufacturerString : Option WString
  productString : Option WString
  interfaceNumber : Int32
deriving DecidableEq, Repr

/-- A record on the heap, with the strings it owns. -/
structure Stored where
  address : Nat
  path : Held
  vendorId : UInt16
  productId : UInt16
  serialNumber : Held
  releaseNumber : UInt16
  manufacturerString : Held
  productString : Held
  interfaceNumber : Int32

namespace Stored

def record (stored : Stored) (next : Option Nat) : DeviceInfo where
  path := stored.path.pointer
  vendorId := stored.vendorId
  productId := stored.productId
  serialNumber := stored.serialNumber.pointer
  releaseNumber := stored.releaseNumber
  manufacturerString := stored.manufacturerString.pointer
  productString := stored.productString.pointer
  interfaceNumber := stored.interfaceNumber
  next := next

def info (stored : Stored) : Info where
  path := stored.path.chars
  vendorId := stored.vendorId
  productId := stored.productId
  serialNumber := stored.serialNumber.chars
  releaseNumber := stored.releaseNumber
  manufacturerString := stored.manufacturerString.chars
  productString := stored.productString.chars
  interfaceNumber := stored.interfaceNumber

def strings (stored : Stored) : Cells :=
  stored.path.cells .text + (stored.serialNumber.cells .wide +
    (stored.manufacturerString.cells .wide + stored.productString.cells .wide))

def link (stored : Stored) : Heap.Link Block where
  address := stored.address
  block next := .info (stored.record next)
  belongings := stored.strings

/-- The blocks of a record whose next record is `next`. -/
def cells (stored : Stored) (next : Option Nat) : Cells :=
  (stored.address, .info (stored.record next)) ::ₘ stored.strings

end Stored

/-- The pointer to the first record. -/
def first (list : List Stored) : Option Nat := list.head?.map Stored.address

/-- The pointer to the last record. -/
def last (list : List Stored) : Option Nat := list.getLast?.map Stored.address

/-- The blocks of a list of records, the last of which points to `beyond`. -/
def listCells (list : List Stored) (beyond : Option Nat) : Cells :=
  Heap.chain (list.map Stored.link) beyond

@[simp] theorem listCells_nil (beyond : Option Nat) : listCells [] beyond = 0 := rfl

theorem listCells_cons (stored : Stored) (list : List Stored) :
    listCells (stored :: list) none = stored.cells (first list) + listCells list none := by
  have pointer : Heap.entry (list.map Stored.link) none = first list := by
    rw [Heap.entry, Option.or_none, List.head?_map, Option.map_map]
    rfl
  rw [listCells, List.map_cons, Heap.chain, pointer, Stored.cells, Multiset.cons_add]
  rfl

theorem listCells_snoc (list : List Stored) (stored : Stored) (beyond : Option Nat) :
    listCells (list ++ [stored]) beyond =
      listCells list (some stored.address) + stored.cells beyond := by
  rw [listCells, List.map_append, Heap.chain_append]
  simp [listCells, Heap.chain, Heap.entry, Stored.cells, Stored.link]

/-- Change where the last record points. -/
theorem setNext_spec {cells : Cells} (list : List Stored) (before after : Option Nat) :
    Heap.Triple (listCells list before + cells) (setNext (last list) after)
      fun _ left => left = listCells list after + cells := by
  rcases List.eq_nil_or_concat list with rfl | ⟨list, stored, rfl⟩
  · exact Heap.Triple.pure rfl
  · have pointer : last (list ++ [stored]) = some stored.address := by simp [last]
    rw [List.concat_eq_append, pointer]
    refine Heap.Triple.permute ((stored.address, .info (stored.record before)) ::ₘ
      (listCells list (some stored.address) + stored.strings + cells)) ?_ ?_
    · rw [listCells_snoc, Stored.cells]
      simp only [← Multiset.singleton_add]
      abel
    · refine (modifyInfo_spec (stored.record before) _).weaken ?_
      rintro - left rfl
      rw [listCells_snoc, Stored.cells]
      simp only [← Multiset.singleton_add]
      rw [show ({ stored.record before with next := after } : DeviceInfo) =
        stored.record after from rfl]
      abel

/-! ## One device -/

section Reports

variable (locale : Locale)

def UdevDevice.usbInfo (device : UdevDevice) (usb : UsbDevice) (found : Uevent) : Info where
  path := device.devNode
  vendorId := found.id.vendorId
  productId := found.id.productId
  serialNumber := found.serialNumber.map (wideOf locale)
  releaseNumber := usb.bcdDevice.elim 0 fun text => UInt16.ofInt (strtol16 text)
  manufacturerString := usb.manufacturer.map (wideOf locale)
  productString := usb.product.map (wideOf locale)
  interfaceNumber := device.usbInterface.elim (-1) fun number =>
    number.elim (-1) fun text => Int32.ofInt (strtol16 text)

def UdevDevice.bluetoothInfo (device : UdevDevice) (found : Uevent) : Info where
  path := device.devNode
  vendorId := found.id.vendorId
  productId := found.id.productId
  serialNumber := found.serialNumber.map (wideOf locale)
  releaseNumber := 0
  manufacturerString := some []
  productString := found.productName.map (wideOf locale)
  interfaceNumber := -1

/-- The record for a device that matches; none for a USB device whose node is
missing. -/
def UdevDevice.report (device : UdevDevice) (found : Uevent) : Option Info :=
  if found.id.busType = busUsb then
    device.usbDevice.map fun usb => device.usbInfo locale usb found
  else some (device.bluetoothInfo locale found)

/-- The record that a device calls for. -/
def UdevDevice.describe (vendorId productId : UInt16) (device : UdevDevice) : Option Info :=
  match device.hidDevice with
  | some (some uevent) =>
      let found := Uevent.parse ⟨0, 0, 0⟩ uevent
      if found.result && wants vendorId productId found.id then device.report locale found
      else none
  | _ => none

/-- The variables of the loop when it has made this list. -/
def scanOf (list : List Stored) : Scan := ⟨first list, last list⟩

theorem scanOf_snoc (list : List Stored) (stored : Stored) :
    scanOf (list ++ [stored]) =
      ⟨if (last list).isSome then first list else some stored.address,
        some stored.address⟩ := by
  have final : last (list ++ [stored]) = some stored.address := by simp [last]
  rw [scanOf, final]
  cases list with
  | nil => rfl
  | cons other list => simp [first, last, List.getLast?_cons]

/-- A record as `createRecord` leaves it. -/
structure Created (device : UdevDevice) (uevent : Uevent) (stored : Stored) : Prop where
  path : stored.path.chars = device.devNode
  vendorId : stored.vendorId = uevent.id.vendorId
  productId : stored.productId = uevent.id.productId
  serialNumber : stored.serialNumber.chars = uevent.serialNumber.map (wideOf locale)
  releaseNumber : stored.releaseNumber = 0
  manufacturerString : stored.manufacturerString = none
  productString : stored.productString = none
  interfaceNumber : stored.interfaceNumber = -1

variable {uevent : Uevent} {found : Found} {serial name : Held}

theorem createRecord_spec (tracks : Tracks uevent found serial name) (list : List Stored)
    (device : UdevDevice) (lost : Cells) :
    Heap.Triple (listCells list none + copyCells serial name lost)
      (createRecord locale (scanOf list) device found) fun result left =>
        ∃ stored, Created locale device uevent stored ∧ result.2 = stored.address ∧
          result.1 = scanOf (list ++ [stored]) ∧
          left = listCells (list ++ [stored]) none + copyCells serial name lost := by
  unfold createRecord
  refine Heap.Triple.bind (Heap.Triple.alloc _) ?_
  rintro tmp left rfl
  rw [← Multiset.add_cons]
  refine Heap.Triple.bind (setNext_spec list none (some tmp)) ?_
  rintro - left rfl
  refine Heap.Triple.bind (strdup_spec device.devNode) ?_
  rintro _ left ⟨path, rfl, pathChars, rfl⟩
  rw [Multiset.add_cons, Multiset.add_cons]
  refine Heap.Triple.bind (modifyInfo_spec blankInfo _) ?_
  rintro - left rfl
  rw [tracks.serialPointer]
  refine Heap.Triple.permute (serial.cells .text + ((tmp, .info
    { blankInfo with
      path := path.pointer, vendorId := found.id.vendorId, productId := found.id.productId }) ::ₘ
    (path.cells .text + (listCells list (some tmp) + (name.cells .text + lost))))) ?_ ?_
  · rw [copyCells]
    simp only [← Multiset.singleton_add]
    abel
  refine Heap.Triple.bind (loadString_spec (fun _ => rfl) serial) ?_
  rintro _ left ⟨rfl, rfl⟩
  refine Heap.Triple.bind (utf8ToWcharT_spec locale serial.chars) ?_
  rintro _ left ⟨wide, rfl, wideChars, rfl⟩
  rw [Multiset.add_cons, Multiset.add_cons]
  refine Heap.Triple.bind (modifyInfo_spec _ _) ?_
  rintro - left rfl
  refine Heap.Triple.pure ⟨⟨tmp, path, found.id.vendorId, found.id.productId, wide, 0, none,
    none, -1⟩, ?_, rfl, ?_, ?_⟩
  · exact {
      path := pathChars
      vendorId := by rw [tracks.id]
      productId := by rw [tracks.id]
      serialNumber := by rw [wideChars, tracks.serialChars]
      releaseNumber := rfl
      manufacturerString := rfl
      productString := rfl
      interfaceNumber := rfl }
  · rw [scanOf_snoc]
    rfl
  · rw [listCells_snoc, Stored.cells, copyCells]
    simp only [Stored.strings, Stored.record, blankInfo, Held.cells, Held.pointer,
      Option.map_none, ← Multiset.singleton_add, add_zero]
    abel

theorem takeOff_spec {cells : Cells} {device : UdevDevice} {stored : Stored}
    (created : Created locale device uevent stored) (list : List Stored) :
    Heap.Triple (listCells (list ++ [stored]) none + cells)
      (takeOff (scanOf (list ++ [stored])) (last list) stored.address) fun scan left =>
        scan = scanOf list ∧ left = listCells list none + cells := by
  unfold takeOff
  refine Heap.Triple.permute ((stored.address, .info (stored.record none)) ::ₘ
    (stored.serialNumber.cells .wide + (stored.path.cells .text +
      (listCells list (some stored.address) + cells)))) ?_ ?_
  · rw [listCells_snoc, Stored.cells, Stored.strings, created.manufacturerString,
      created.productString]
    simp only [Held.cells, ← Multiset.singleton_add, add_zero]
    abel
  refine Heap.Triple.bind (loadAs_spec rfl) ?_
  rintro _ left ⟨rfl, rfl⟩
  rw [← Multiset.add_cons]
  refine Heap.Triple.bind (free_spec .wide stored.serialNumber) ?_
  rintro - left rfl
  rw [← Multiset.add_cons]
  refine Heap.Triple.bind (free_spec .text stored.path) ?_
  rintro - left rfl
  refine Heap.Triple.bind Heap.Triple.free ?_
  rintro - left rfl
  refine Heap.Triple.bind (setNext_spec list _ none) ?_
  rintro - left rfl
  refine Heap.Triple.pure ⟨?_, rfl⟩
  rw [scanOf_snoc]
  rcases pointer : last list with - | address
  · rw [scanOf, pointer]
    have empty : list = [] := by simpa [last] using pointer
    rw [empty]
    rfl
  · rw [scanOf, pointer]
    rfl

theorem fillUsb_spec {cells : Cells} {device : UdevDevice} {stored : Stored}
    (created : Created locale device uevent stored) (usb : UsbDevice) :
    Heap.Triple (stored.cells none + cells)
      (fillUsb locale stored.address usb device.usbInterface) fun _ left =>
        ∃ filled : Stored, filled.address = stored.address ∧
          filled.info = device.usbInfo locale usb uevent ∧
          left = filled.cells none + cells := by
  unfold fillUsb
  rw [Stored.cells, Multiset.cons_add]
  refine Heap.Triple.bind (utf8ToWcharT_spec locale usb.manufacturer) ?_
  rintro _ left ⟨manufacturer, rfl, manufacturerChars, rfl⟩
  rw [Multiset.add_cons]
  refine Heap.Triple.bind (modifyInfo_spec _ _) ?_
  rintro - left rfl
  refine Heap.Triple.bind (utf8ToWcharT_spec locale usb.product) ?_
  rintro _ left ⟨product, rfl, productChars, rfl⟩
  rw [Multiset.add_cons]
  refine Heap.Triple.bind (modifyInfo_spec _ _) ?_
  rintro - left rfl
  let filled (interface : Int32) : Stored :=
    { stored with
      releaseNumber := usb.bcdDevice.elim 0 fun text => UInt16.ofInt (strtol16 text)
      manufacturerString := manufacturer
      productString := product
      interfaceNumber := interface }
  have blocks : ∀ interface, (filled interface).cells none + cells =
      ((filled interface).address, .info ((filled interface).record none)) ::ₘ
        (product.cells .wide + (manufacturer.cells .wide + (stored.strings + cells))) := by
    intro interface
    rw [Stored.cells, Stored.strings, Stored.strings, created.manufacturerString,
      created.productString]
    simp only [filled, Held.cells, ← Multiset.singleton_add, add_zero]
    abel
  have told : ∀ interface, (filled interface).info =
      { device.usbInfo locale usb uevent with interfaceNumber := interface } := by
    intro interface
    simp only [Stored.info, filled, UdevDevice.usbInfo, created.path, created.vendorId,
      created.productId, created.serialNumber, manufacturerChars, productChars]
  cases interface : device.usbInterface with
  | none =>
      refine Heap.Triple.pure ⟨filled (-1), rfl, ?_, ?_⟩
      · rw [told]
        simp [UdevDevice.usbInfo, interface]
      · rw [blocks]
        simp only [Stored.record, filled, created.interfaceNumber]
  | some number =>
      refine (modifyInfo_spec _ _).weaken ?_
      rintro - left rfl
      refine ⟨filled (number.elim (-1) fun text => Int32.ofInt (strtol16 text)), rfl, ?_, ?_⟩
      · rw [told]
        simp [UdevDevice.usbInfo, interface]
      · rw [blocks]
        rfl

theorem fillBluetooth_spec (tracks : Tracks uevent found serial name) {cells : Cells}
    {device : UdevDevice} {stored : Stored} (created : Created locale device uevent stored) :
    Heap.Triple (stored.cells none + (name.cells .text + cells))
      (fillBluetooth locale stored.address found) fun _ left =>
        ∃ filled : Stored, filled.address = stored.address ∧
          filled.info = device.bluetoothInfo locale uevent ∧
          left = filled.cells none + (name.cells .text + cells) := by
  unfold fillBluetooth
  rw [Stored.cells, Multiset.cons_add, tracks.namePointer]
  refine Heap.Triple.bind (Heap.Triple.alloc _) ?_
  rintro manufacturer left rfl
  rw [Multiset.cons_swap]
  refine Heap.Triple.bind (modifyInfo_spec _ _) ?_
  rintro - left rfl
  refine Heap.Triple.permute (name.cells .text + ((stored.address, .info
    { stored.record none with manufacturerString := some manufacturer }) ::ₘ
    ((manufacturer, .wide []) ::ₘ (stored.strings + cells)))) ?_ ?_
  · simp only [← Multiset.singleton_add]
    abel
  refine Heap.Triple.bind (loadString_spec (fun _ => rfl) name) ?_
  rintro _ left ⟨rfl, rfl⟩
  refine Heap.Triple.bind (utf8ToWcharT_spec locale name.chars) ?_
  rintro _ left ⟨product, rfl, productChars, rfl⟩
  rw [Multiset.add_cons, Multiset.add_cons]
  refine (modifyInfo_spec _ _).weaken ?_
  rintro - left rfl
  refine ⟨{ stored with
      manufacturerString := some (manufacturer, [])
      productString := product }, rfl, ?_, ?_⟩
  · simp only [Stored.info, UdevDevice.bluetoothInfo, created.path, created.vendorId,
      created.productId, created.serialNumber, created.releaseNumber, created.interfaceNumber,
      productChars, tracks.nameChars]
    rfl
  · rw [Stored.cells, Stored.strings, Stored.strings, created.manufacturerString,
      created.productString]
    simp only [Stored.record, Held.cells, Held.pointer, Option.map_some,
      ← Multiset.singleton_add, add_zero]
    abel

/-- The branch for a device that matches appends the record that the device calls for,
if there is one. -/
theorem addDevice_spec (tracks : Tracks uevent found serial name) (list : List Stored)
    (device : UdevDevice) (lost : Cells) :
    Heap.Triple (listCells list none + copyCells serial name lost)
      (addDevice locale (scanOf list) device found) fun scan left =>
        ∃ longer, scan = scanOf longer ∧
          longer.map Stored.info = list.map Stored.info ++ (device.report locale uevent).toList ∧
          left = listCells longer none + copyCells serial name lost := by
  unfold addDevice UdevDevice.report
  refine Heap.Triple.bind (createRecord_spec locale tracks list device lost) ?_
  rintro ⟨_, _⟩ left ⟨stored, created, rfl, rfl, rfl⟩
  dsimp only
  rw [tracks.id]
  split
  next =>
    cases device.usbDevice with
    | none =>
        refine (takeOff_spec locale created list).weaken ?_
        rintro _ left ⟨rfl, rfl⟩
        exact ⟨list, rfl, by simp, rfl⟩
    | some usb =>
        rw [listCells_snoc, Multiset.add_comm (listCells _ _), Multiset.add_assoc]
        refine Heap.Triple.bind (fillUsb_spec locale created usb) ?_
        rintro - left ⟨filled, address, info, rfl⟩
        refine Heap.Triple.pure ⟨list ++ [filled], ?_, ?_, ?_⟩
        · rw [scanOf_snoc, scanOf_snoc, address]
        · simp [info]
        · rw [listCells_snoc, address]
          abel
  next =>
    refine Heap.Triple.permute (stored.cells none + (name.cells .text +
      (listCells list (some stored.address) + (serial.cells .text + lost)))) ?_ ?_
    · rw [listCells_snoc, copyCells]
      abel
    refine Heap.Triple.bind (fillBluetooth_spec locale tracks created) ?_
    rintro - left ⟨filled, address, info, rfl⟩
    refine Heap.Triple.pure ⟨list ++ [filled], ?_, ?_, ?_⟩
    · rw [scanOf_snoc, scanOf_snoc, address]
    · simp [info]
    · rw [listCells_snoc, copyCells, address]
      abel

/-! ## All devices -/

/-- Every HID device has the attribute `uevent`. -/
def UdevDevice.Attributed (device : UdevDevice) : Prop := device.hidDevice ≠ some none

/-- The copies of the last name and of the last serial number. -/
def currentCopies (found : Uevent) : Nat :=
  found.serialNumber.isSome.toNat + found.productName.isSome.toNat

/-- How many copies of values the visit of a device loses. -/
def UdevDevice.lost (device : UdevDevice) : Nat :=
  match device.hidDevice with
  | some (some uevent) => copies uevent - currentCopies (Uevent.parse ⟨0, 0, 0⟩ uevent)
  | _ => 0

theorem card_heldCells (kind : List Char → Block) (held : Held) :
    (held.cells kind).card = held.chars.isSome.toNat := by
  cases held <;> rfl

theorem visit_spec (vendorId productId : UInt16) (list : List Stored) (device : UdevDevice)
    (garbage : HidId) (attributed : device.Attributed) :
    Heap.Triple (listCells list none)
      (visit locale vendorId productId (scanOf list) (device, garbage)) fun scan left =>
        ∃ longer lost, scan = scanOf longer ∧
          longer.map Stored.info = list.map Stored.info ++
            (device.describe locale vendorId productId).toList ∧
          left = listCells longer none + lost ∧ lost.card = device.lost := by
  unfold visit UdevDevice.describe UdevDevice.lost
  rcases hid : device.hidDevice with - | - | uevent
  · exact Heap.Triple.pure ⟨list, 0, rfl, by simp, by simp, rfl⟩
  · exact absurd hid attributed
  have same := Uevent.parse_sameFindings garbage ⟨0, 0, 0⟩ uevent
  dsimp only
  refine Heap.Triple.permute _ (Multiset.zero_add _).symm ?_
  refine Heap.Triple.bind ((parseUeventInfo_spec garbage uevent).frame _) ?_
  rintro ⟨result, found⟩ _ ⟨_, ⟨serial, name, lost, tracks, rfl, rfl, card⟩, rfl⟩
  dsimp only at tracks ⊢
  rw [Multiset.add_comm]
  have records : Heap.Triple (listCells list none + copyCells serial name lost)
      (addMatching locale vendorId productId (scanOf list) device
        (Uevent.parse garbage uevent).result found) fun scan left =>
        ∃ longer, scan = scanOf longer ∧
          longer.map Stored.info = list.map Stored.info ++
            (if (Uevent.parse ⟨0, 0, 0⟩ uevent).result &&
                wants vendorId productId (Uevent.parse ⟨0, 0, 0⟩ uevent).id then
              device.report locale (Uevent.parse ⟨0, 0, 0⟩ uevent)
            else none).toList ∧
          left = listCells longer none + copyCells serial name lost := by
    rw [addMatching, tracks.id, same.result]
    by_cases complete : (Uevent.parse ⟨0, 0, 0⟩ uevent).result = true
    · rw [same.eq complete] at tracks ⊢
      split
      next => exact addDevice_spec locale tracks list device lost
      next => exact Heap.Triple.pure ⟨list, rfl, by simp, rfl⟩
    · simp only [complete, Bool.false_and, Bool.false_eq_true, if_false]
      exact Heap.Triple.pure ⟨list, rfl, by simp, rfl⟩
  refine Heap.Triple.bind records ?_
  rintro _ left ⟨longer, rfl, infos, rfl⟩
  rw [tracks.serialPointer, tracks.namePointer]
  refine Heap.Triple.permute (serial.cells .text + (name.cells .text +
    (listCells longer none + lost))) ?_ ?_
  · rw [copyCells]
    abel
  refine Heap.Triple.bind (free_spec .text serial) ?_
  rintro - left rfl
  refine Heap.Triple.bind (free_spec .text name) ?_
  rintro - left rfl
  refine Heap.Triple.pure ⟨longer, lost, rfl, infos, rfl, ?_⟩
  rw [copyCells, Multiset.card_add, Multiset.card_add, card_heldCells, card_heldCells,
    tracks.serialChars, tracks.nameChars, same.serial, same.name] at card
  rw [← card, currentCopies]
  omega

/-- The loop makes the records in the order of the devices. -/
theorem visits_spec (vendorId productId : UInt16) (visits : List (UdevDevice × HidId))
    (attributed : ∀ visited ∈ visits, visited.1.Attributed) (list : List Stored) :
    Heap.Triple (listCells list none)
      (visits.foldlM (visit locale vendorId productId) (scanOf list)) fun scan left =>
        ∃ longer lost, scan = scanOf longer ∧
          longer.map Stored.info = list.map Stored.info ++
            visits.filterMap (fun visited => visited.1.describe locale vendorId productId) ∧
          left = listCells longer none + lost ∧
          lost.card = (visits.map fun visited => visited.1.lost).sum := by
  induction visits generalizing list with
  | nil => exact Heap.Triple.pure ⟨list, 0, rfl, by simp, by simp, rfl⟩
  | cons visited visits inductionHypothesis =>
      rw [List.foldlM_cons]
      refine Heap.Triple.bind (visit_spec locale vendorId productId list visited.1 visited.2
        (attributed visited List.mem_cons_self)) ?_
      rintro _ left ⟨longer, lost, rfl, infos, rfl, card⟩
      have rest := (inductionHypothesis
        (fun other there => attributed other (List.mem_cons_of_mem _ there)) longer).frame lost
      refine rest.weaken ?_
      rintro _ _ ⟨left, ⟨final, more, rfl, finalInfos, rfl, finalCard⟩, rfl⟩
      refine ⟨final, more + lost, rfl, ?_, by rw [Multiset.add_assoc], ?_⟩
      · rw [finalInfos, infos, List.append_assoc, List.filterMap_cons]
        cases visited.1.describe locale vendorId productId <;> rfl
      · rw [Multiset.card_add, finalCard, card, List.map_cons, List.sum_cons, Nat.add_comm]

end Reports

end MhWallet.Hid
