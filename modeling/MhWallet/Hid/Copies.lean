import Mathlib.Tactic.Abel
import MhWallet.Hid.Enumeration

/-!
Contract: `parse_uevent_info` over memory.

The function copies the values of the name and of the serial number.  A text that
repeats one of the keys makes the pointer to the earlier copy go lost.

Owns: which copies are made, which of them the variables point to, and that what the
kernel prints is read back.

Does not own: the records that are made from the copies.
-/

namespace MhWallet.Hid

open MhWallet.Effect MhWallet.Text

/-- A line whose value is copied. -/
def copied (line : CString) : Bool :=
  match cut '=' line with
  | some (key, _) => key = keyName || key = keyUniq
  | none => false

/-- How many values of a text are copied. -/
def copies (uevent : CString) : Nat := (tokens '\n' uevent).countP copied

/-- The variables hold what has been found, with the strings in copies. -/
structure Tracks (uevent : Uevent) (found : Found) (serial name : Held) : Prop where
  id : found.id = uevent.id
  foundId : found.foundId = uevent.foundId
  foundSerial : found.foundSerial = uevent.serialNumber.isSome
  foundName : found.foundName = uevent.productName.isSome
  serialPointer : found.serialNumberUtf8 = serial.pointer
  namePointer : found.productNameUtf8 = name.pointer
  serialChars : serial.chars = uevent.serialNumber
  nameChars : name.chars = uevent.productName

/-- The copies that the variables point to, and those that nothing points to. -/
def copyCells (serial name : Held) (lost : Cells) : Cells :=
  serial.cells .text + (name.cells .text + lost)

theorem parseLine_spec {uevent : Uevent} {found : Found} {serial name : Held}
    (tracks : Tracks uevent found serial name) (lost : Cells) (line : CString) :
    Heap.Triple (copyCells serial name lost) (parseLine found line) fun after left =>
      ∃ serial' name' lost', Tracks (uevent.line line) after serial' name' ∧
        left = copyCells serial' name' lost' ∧
        left.card = (copyCells serial name lost).card + (copied line).toNat := by
  unfold parseLine Uevent.line copied
  split
  next absent =>
    rw [absent]
    exact Heap.Triple.pure ⟨serial, name, lost, tracks, rfl, rfl⟩
  next key value parts =>
    simp only [parts]
    have keys : keyName ≠ keyId ∧ keyUniq ≠ keyId ∧ keyUniq ≠ keyName := by decide
    unfold Uevent.assign
    split
    next isId =>
      refine Heap.Triple.pure ⟨serial, name, lost, ?_, rfl, ?_⟩
      · exact { tracks with
          id := by rw [tracks.id]
          foundId := by simp only [tracks.id, tracks.foundId] }
      · simp [isId, Ne.symm keys.1, Ne.symm keys.2.1]
    next isNotId =>
      split
      next isName =>
        refine Heap.Triple.bind (strdup_spec (some value)) ?_
        rintro _ left ⟨fresh, rfl, chars, rfl⟩
        refine Heap.Triple.pure ⟨serial, fresh, name.cells .text + lost, ?_, ?_, ?_⟩
        · exact { tracks with
            foundName := rfl
            namePointer := rfl
            nameChars := chars }
        · rw [copyCells, copyCells]
          abel
        · rcases fresh with - | ⟨address, copy⟩
          · cases chars
          · simp [isName, Held.cells, Nat.add_comm]
      next isNotName =>
        split
        next isUniq =>
          refine Heap.Triple.bind (strdup_spec (some value)) ?_
          rintro _ left ⟨fresh, rfl, chars, rfl⟩
          refine Heap.Triple.pure ⟨fresh, name, serial.cells .text + lost, ?_, ?_, ?_⟩
          · exact { tracks with
              foundSerial := rfl
              serialPointer := rfl
              serialChars := chars }
          · rw [copyCells, copyCells]
            abel
          · rcases fresh with - | ⟨address, copy⟩
            · cases chars
            · simp [isUniq, Held.cells, Nat.add_comm]
        next isNotUniq =>
          refine Heap.Triple.pure ⟨serial, name, lost, tracks, rfl, ?_⟩
          simp [isNotName, isNotUniq]

theorem parseLines_spec (lines : List CString) {uevent : Uevent} {found : Found}
    {serial name : Held} (tracks : Tracks uevent found serial name) (lost : Cells) :
    Heap.Triple (copyCells serial name lost) (lines.foldlM parseLine found) fun after left =>
      ∃ serial' name' lost', Tracks (lines.foldl Uevent.line uevent) after serial' name' ∧
        left = copyCells serial' name' lost' ∧
        left.card = (copyCells serial name lost).card + lines.countP copied := by
  induction lines generalizing uevent found serial name lost with
  | nil => exact Heap.Triple.pure ⟨serial, name, lost, tracks, rfl, rfl⟩
  | cons line lines inductionHypothesis =>
      rw [List.foldlM_cons, List.foldl_cons]
      apply Heap.Triple.bind (parseLine_spec tracks lost line)
      rintro next _ ⟨serial', name', lost', tracked, rfl, card⟩
      apply (inductionHypothesis tracked lost').weaken
      rintro after left ⟨serial'', name'', lost'', final, same, total⟩
      refine ⟨serial'', name'', lost'', final, same, ?_⟩
      rw [total, card, List.countP_cons]
      rcases copied line with - | -
      · rfl
      · simp only [Bool.toNat_true, if_true]
        omega

/-- `parse_uevent_info` finds what the text says, and allocates one copy for each
line with a name or a serial number. -/
theorem parseUeventInfo_spec (garbage : HidId) (uevent : CString) :
    Heap.Triple 0 (parseUeventInfo garbage (some uevent)) fun result left =>
      ∃ serial name lost, Tracks (Uevent.parse garbage uevent) result.2 serial name ∧
        result.1 = (Uevent.parse garbage uevent).result ∧
        left = copyCells serial name lost ∧ left.card = copies uevent := by
  unfold parseUeventInfo
  refine Heap.Triple.bind (Heap.Triple.alloc _) ?_
  rintro tmp left rfl
  refine Heap.Triple.bind (loadAs_spec rfl) ?_
  rintro text left ⟨copy, rfl⟩
  rw [copy]
  have start : Tracks (Uevent.start garbage) ⟨garbage, false, false, false, none, none⟩
      none none := ⟨rfl, rfl, rfl, rfl, rfl, rfl, rfl, rfl⟩
  have lines := (parseLines_spec (tokens '\n' uevent) start 0).frame
    {(tmp, Block.text uevent)}
  refine Heap.Triple.permute _ ?_ (Heap.Triple.bind lines ?_)
  · simp [copyCells, Held.cells]
  · rintro found _ ⟨left, ⟨serial, name, lost, tracks, rfl, card⟩, rfl⟩
    rw [Multiset.add_comm, Multiset.singleton_add]
    refine Heap.Triple.bind Heap.Triple.free ?_
    rintro - left rfl
    refine Heap.Triple.pure ⟨serial, name, lost, tracks, ?_, rfl, ?_⟩
    · show (found.foundId && found.foundName && found.foundSerial) = Uevent.result _
      rw [tracks.foundId, tracks.foundName, tracks.foundSerial]
      rfl
    · rw [card]
      simp [copyCells, Held.cells, copies]

section ReadBack

open Uevent

/-- Whatever properties the kernel prints: `parse_uevent_info` says whether all three
keys are there, and has copied or scanned the last value of each. -/
theorem uevent_read_back (garbage : HidId) {properties : List Property}
    (printed : Printed properties) (memory : Memory) :
    ∃ found after serial name lost,
      (parseUeventInfo garbage (some (ueventText properties))).run memory =
        (.ok (!(values keyId properties).isEmpty && !(values keyName properties).isEmpty &&
          !(values keyUniq properties).isEmpty, found), after) ∧
      Heap.Owns memory.block (copyCells serial name lost) after ∧
      (found.serialNumberUtf8 = serial.pointer ∧
        serial.chars = (values keyUniq properties).getLast?) ∧
      (found.productNameUtf8 = name.pointer ∧
        name.chars = (values keyName properties).getLast?) ∧
      ∀ bus vendor product : UInt32,
        (values keyId properties).getLast? =
            some (idValue bus.toNat vendor.toNat product.toNat) →
          found.id = ⟨bus, vendor.toUInt16, product.toUInt16⟩ := by
  have readsBack := parse_reads_back garbage printed
  obtain ⟨⟨result, found⟩, after, _, ran, owns, serial, name, lost, tracks, same, rfl, -⟩ :=
    (parseUeventInfo_spec garbage (ueventText properties)).run memory
  have present : ∀ key, (values key properties).getLast?.isSome =
      !(values key properties).isEmpty := by
    intro key
    cases values key properties <;> simp
  have all : result = (!(values keyId properties).isEmpty &&
      !(values keyName properties).isEmpty && !(values keyUniq properties).isEmpty) := by
    rw [show result = (parse garbage (ueventText properties)).result from same, Uevent.result,
      readsBack.foundId, readsBack.name, readsBack.serial, present, present]
  rw [all] at ran
  refine ⟨found, after, serial, name, lost, ran, owns, ?_, ?_, ?_⟩
  · exact ⟨tracks.serialPointer, tracks.serialChars.trans readsBack.serial⟩
  · exact ⟨tracks.namePointer, tracks.nameChars.trans readsBack.name⟩
  · intro bus vendor product latest
    exact tracks.id.trans (readsBack.id bus vendor product latest)

/-- A uevent that names its device twice. -/
def twiceNamed : List Property :=
  [⟨keyName, ['a'], by decide, by decide⟩,
    ⟨keyId, idValue 3 0x2c97 1, by decide, by decide +kernel⟩,
    ⟨keyName, ['b'], by decide, by decide⟩]

theorem uevent_read_back_of_twiceNamed :
    ∃ found after serial name lost,
      (parseUeventInfo ⟨0, 0, 0⟩ (some (ueventText twiceNamed))).run Heap.empty =
        (.ok (false, found), after) ∧
      Heap.Owns Heap.empty.block (copyCells serial name lost) after ∧
      found.productNameUtf8 = name.pointer ∧ name.chars = some ['b'] ∧
      found.id = ⟨3, 0x2c97, 1⟩ := by
  have printed : Printed twiceNamed := by
    intro property there isId
    refine ⟨3, 0x2c97, 1, ?_⟩
    simp only [twiceNamed, List.mem_cons, List.not_mem_nil, or_false] at there
    rcases there with rfl | rfl | rfl
    · exact absurd isId (by decide)
    · rfl
    · exact absurd isId (by decide)
  obtain ⟨found, after, serial, name, lost, ran, owns, -, ⟨pointer, chars⟩, id⟩ :=
    uevent_read_back ⟨0, 0, 0⟩ printed Heap.empty
  exact ⟨found, after, serial, name, lost, ran, owns, pointer, chars, id 3 0x2c97 1 rfl⟩

end ReadBack

end MhWallet.Hid
