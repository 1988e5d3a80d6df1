import MhWallet.Core
import MhWallet.Effect.Heap
import MhWallet.Text.Scan

/-!
Contract: the memory of `linux/hid.c`: strings, the records of an enumeration,
open devices, and the variable that holds the last global error.

Reading or freeing anything that is not allocated, or reading it as something else,
is undefined.

Owns: the blocks, the strings that a pointer owns, and the two functions that
register an error.

Does not own: the lists and the devices made of them.
-/

namespace MhWallet.Hid

open MhWallet.Effect MhWallet.Text

/-- The characters of a string of `wchar_t`. -/
abbrev WString := List Char

/-- `struct hid_device_info`. -/
structure DeviceInfo where
  path : Option Nat
  vendorId : UInt16
  productId : UInt16
  serialNumber : Option Nat
  releaseNumber : UInt16
  manufacturerString : Option Nat
  productString : Option Nat
  interfaceNumber : Int32
  next : Option Nat
deriving DecidableEq, Repr

/-- `struct hid_device_`. -/
structure HidDevice where
  deviceHandle : Int
  blocking : Bool
  usesNumberedReports : Bool
  lastErrorStr : Option Nat
deriving DecidableEq, Repr

inductive Block where
  | text (chars : CString)
  | wide (chars : WString)
  | info (record : DeviceInfo)
  | device (record : HidDevice)
  | pointer (value : Option Nat)
deriving DecidableEq, Repr

namespace Block

def asText : Block → Option CString
  | text chars => some chars
  | _ => none

def asWide : Block → Option WString
  | wide chars => some chars
  | _ => none

def asInfo : Block → Option DeviceInfo
  | info record => some record
  | _ => none

def asDevice : Block → Option HidDevice
  | device record => some record
  | _ => none

def asPointer : Block → Option (Option Nat)
  | pointer value => some value
  | _ => none

end Block

abbrev Memory := Heap Block

abbrev Cells := Multiset (Nat × Block)

section Access

variable {α : Type} {cells : Cells} {address : Nat}

/-- The block at an address, as what its type says. -/
def loadAs (view : Block → Option α) (address : Nat) : Action Stop Memory α := do
  .ofOption .undefined (view (← Heap.load .undefined address))

theorem loadAs_spec {view : Block → Option α} {block : Block} {value : α}
    (viewed : view block = some value) :
    Heap.Triple ((address, block) ::ₘ cells) (loadAs view address)
      fun found left => found = value ∧ left = (address, block) ::ₘ cells := by
  refine Heap.Triple.bind Heap.Triple.load ?_
  rintro found left ⟨rfl, rfl⟩
  rw [viewed]
  exact Heap.Triple.pure ⟨rfl, rfl⟩

/-- Change a record of an enumeration. -/
def modifyInfo (address : Nat) (change : DeviceInfo → DeviceInfo) : Action Stop Memory Unit := do
  let record ← loadAs Block.asInfo address
  Heap.store .undefined address (.info (change record))

theorem modifyInfo_spec (record : DeviceInfo) (change : DeviceInfo → DeviceInfo) :
    Heap.Triple ((address, .info record) ::ₘ cells) (modifyInfo address change)
      fun _ left => left = (address, .info (change record)) ::ₘ cells := by
  refine Heap.Triple.bind (loadAs_spec rfl) ?_
  rintro found left ⟨rfl, rfl⟩
  exact Heap.Triple.store _

/-- Change an open device. -/
def modifyDevice (address : Nat) (change : HidDevice → HidDevice) : Action Stop Memory Unit := do
  let record ← loadAs Block.asDevice address
  Heap.store .undefined address (.device (change record))

theorem modifyDevice_spec (record : HidDevice) (change : HidDevice → HidDevice) :
    Heap.Triple ((address, .device record) ::ₘ cells) (modifyDevice address change)
      fun _ left => left = (address, .device (change record)) ::ₘ cells := by
  refine Heap.Triple.bind (loadAs_spec rfl) ?_
  rintro found left ⟨rfl, rfl⟩
  exact Heap.Triple.store _

end Access

/-! ## Strings -/

/-- A string and its address, or the null pointer. -/
abbrev Held := Option (Nat × List Char)

namespace Held

def pointer (held : Held) : Option Nat := held.map Prod.fst

def chars (held : Held) : Option (List Char) := held.map Prod.snd

/-- The block that the pointer owns. -/
def cells (kind : List Char → Block) : Held → Cells
  | none => 0
  | some (address, chars) => {(address, kind chars)}

end Held

section Strings

variable {cells : Cells}

/-- A copy of a string, where there is one. -/
def strdup : Option CString → Action Stop Memory (Option Nat)
  | some chars => some <$> Heap.alloc (.text chars)
  | none => pure none

theorem strdup_spec (source : Option CString) :
    Heap.Triple cells (strdup source) fun pointer left =>
      ∃ held : Held, pointer = held.pointer ∧ held.chars = source ∧
        left = held.cells .text + cells := by
  cases source with
  | none => exact Heap.Triple.pure ⟨none, rfl, rfl, by simp [Held.cells]⟩
  | some chars =>
      apply Heap.Triple.map
      refine (Heap.Triple.alloc _).weaken ?_
      rintro address left rfl
      exact ⟨some (address, chars), rfl, rfl, by simp [Held.cells]⟩

/-- What `mbstowcs` makes of a string; none where it is not valid. -/
abbrev Locale := CString → Option WString

/-- The string that `utf8_to_wchar_t` returns, which is empty where the text is not
valid. -/
def wideOf (locale : Locale) (utf8 : CString) : WString := (locale utf8).getD []

def utf8ToWcharT (locale : Locale) : Option CString → Action Stop Memory (Option Nat)
  | some utf8 => some <$> Heap.alloc (.wide (wideOf locale utf8))
  | none => pure none

theorem utf8ToWcharT_spec (locale : Locale) (source : Option CString) :
    Heap.Triple cells (utf8ToWcharT locale source) fun pointer left =>
      ∃ held : Held, pointer = held.pointer ∧ held.chars = source.map (wideOf locale) ∧
        left = held.cells .wide + cells := by
  cases source with
  | none => exact Heap.Triple.pure ⟨none, rfl, rfl, by simp [Held.cells]⟩
  | some utf8 =>
      apply Heap.Triple.map
      refine (Heap.Triple.alloc _).weaken ?_
      rintro address left rfl
      exact ⟨some (address, wideOf locale utf8), rfl, rfl, by simp [Held.cells]⟩

/-- The string at a pointer, where it is not null. -/
def loadString (view : Block → Option (List Char)) :
    Option Nat → Action Stop Memory (Option (List Char))
  | some address => some <$> loadAs view address
  | none => pure none

theorem loadString_spec {view : Block → Option (List Char)} {kind : List Char → Block}
    (inverse : ∀ chars, view (kind chars) = some chars) (held : Held) :
    Heap.Triple (held.cells kind + cells) (loadString view held.pointer) fun found left =>
      found = held.chars ∧ left = held.cells kind + cells := by
  rcases held with - | ⟨address, chars⟩
  · exact Heap.Triple.pure ⟨rfl, rfl⟩
  · rw [show Held.cells kind (some (address, chars)) + cells =
      (address, kind chars) ::ₘ cells from by simp [Held.cells]]
    apply Heap.Triple.map
    refine (loadAs_spec (inverse chars)).weaken ?_
    rintro found left ⟨rfl, rfl⟩
    exact ⟨rfl, rfl⟩

theorem free_spec (kind : List Char → Block) (held : Held) :
    Heap.Triple (held.cells kind + cells) (Heap.free Stop.undefined held.pointer)
      fun _ left => left = cells := by
  rcases held with - | ⟨address, chars⟩
  · refine Heap.Triple.free_null.weaken ?_
    rintro - left rfl
    simp [Held.cells]
  · rw [show Held.cells kind (some (address, chars)) + cells =
      (address, kind chars) ::ₘ cells from by simp [Held.cells]]
    exact Heap.Triple.free

end Strings

/-! ## Errors -/

section Errors

variable {cells : Cells} (locale : Locale)

/-- `register_global_error`; the variable is the pointer at `lastGlobalErrorStr`. -/
def registerGlobalError (lastGlobalErrorStr : Nat) (msg : Option CString) :
    Action Stop Memory Unit := do
  Heap.free .undefined (← loadAs Block.asPointer lastGlobalErrorStr)
  let copy ← utf8ToWcharT locale msg
  Heap.store .undefined lastGlobalErrorStr (.pointer copy)

/-- `register_device_error`. -/
def registerDeviceError (dev : Nat) (msg : Option CString) : Action Stop Memory Unit := do
  Heap.free .undefined (← loadAs Block.asDevice dev).lastErrorStr
  let copy ← utf8ToWcharT locale msg
  modifyDevice dev fun record => { record with lastErrorStr := copy }

/-- The variable and the string it owns. -/
def globalCells (lastGlobalErrorStr : Nat) (error : Held) : Cells :=
  (lastGlobalErrorStr, .pointer error.pointer) ::ₘ error.cells .wide

theorem registerGlobalError_spec (lastGlobalErrorStr : Nat) (error : Held)
    (msg : Option CString) :
    Heap.Triple (globalCells lastGlobalErrorStr error + cells)
      (registerGlobalError locale lastGlobalErrorStr msg) fun _ left =>
        ∃ fresh : Held, fresh.chars = msg.map (wideOf locale) ∧
          left = globalCells lastGlobalErrorStr fresh + cells := by
  rw [globalCells, Multiset.cons_add]
  refine Heap.Triple.bind (loadAs_spec rfl) ?_
  rintro _ left ⟨rfl, rfl⟩
  rw [← Multiset.add_cons]
  refine Heap.Triple.bind (free_spec _ _) ?_
  rintro - left rfl
  refine Heap.Triple.bind (utf8ToWcharT_spec locale msg) ?_
  rintro _ left ⟨fresh, rfl, chars, rfl⟩
  rw [Multiset.add_cons]
  refine (Heap.Triple.store _).weaken ?_
  rintro - left rfl
  exact ⟨fresh, chars, by rw [globalCells, Multiset.cons_add]⟩

/-- An open device and the string it owns. -/
def deviceCells (dev : Nat) (record : HidDevice) (error : Held) : Cells :=
  (dev, .device { record with lastErrorStr := error.pointer }) ::ₘ error.cells .wide

theorem registerDeviceError_spec (dev : Nat) (record : HidDevice) (error : Held)
    (msg : Option CString) :
    Heap.Triple (deviceCells dev record error + cells)
      (registerDeviceError locale dev msg) fun _ left =>
        ∃ fresh : Held, fresh.chars = msg.map (wideOf locale) ∧
          left = deviceCells dev record fresh + cells := by
  rw [deviceCells, Multiset.cons_add]
  refine Heap.Triple.bind (loadAs_spec rfl) ?_
  rintro _ left ⟨rfl, rfl⟩
  rw [← Multiset.add_cons]
  refine Heap.Triple.bind (free_spec _ _) ?_
  rintro - left rfl
  refine Heap.Triple.bind (utf8ToWcharT_spec locale msg) ?_
  rintro _ left ⟨fresh, rfl, chars, rfl⟩
  rw [Multiset.add_cons]
  refine (modifyDevice_spec _ _).weaken ?_
  rintro - left rfl
  exact ⟨fresh, chars, by rw [deviceCells, Multiset.cons_add]⟩

end Errors

end MhWallet.Hid
