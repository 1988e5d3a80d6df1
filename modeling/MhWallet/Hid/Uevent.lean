import Mathlib.Data.List.Induction
import MhWallet.Text.Scan

/-!
Contract: `parse_uevent_info` of `linux/hid.c`, on the text of the `uevent`
attribute of a HID device.

Owns: what the function makes of any text, and that it reads back what the kernel
prints, whatever other properties stand around it and in whatever order.

Does not own: the copies of the strings that the function makes.
-/

namespace MhWallet.Hid

open MhWallet.Text

/-- The variables that `sscanf` fills. -/
structure HidId where
  busType : UInt32
  vendorId : UInt16
  productId : UInt16
deriving DecidableEq, Repr

/-- `sscanf(value, "%x:%hx:%hx", ...)`: the number of conversions made, and the
variables.  It stops at the first that fails, and keeps those before it. -/
def scanHidId (value : CString) (id : HidId) : Nat × HidId :=
  match scanHex value with
  | none => (0, id)
  | some (negative, bus, rest) =>
      let id := { id with busType := (unsignedLong negative bus).toUInt32 }
      match rest with
      | ':' :: rest =>
          match scanHex rest with
          | none => (1, id)
          | some (negative, vendor, rest) =>
              let id := { id with vendorId := (unsignedLong negative vendor).toUInt16 }
              match rest with
              | ':' :: rest =>
                  match scanHex rest with
                  | none => (2, id)
                  | some (negative, product, _) =>
                      (3, { id with productId := (unsignedLong negative product).toUInt16 })
              | _ => (2, id)
      | _ => (1, id)

def keyId : CString := ['H', 'I', 'D', '_', 'I', 'D']

def keyName : CString := ['H', 'I', 'D', '_', 'N', 'A', 'M', 'E']

def keyUniq : CString := ['H', 'I', 'D', '_', 'U', 'N', 'I', 'Q']

/-- What `parse_uevent_info` has found so far.  `found_name` and `found_serial` say
that the string has been set. -/
structure Uevent where
  id : HidId
  foundId : Bool
  serialNumber : Option CString
  productName : Option CString
deriving DecidableEq, Repr

namespace Uevent

/-- Nothing found yet; the variables for the identifiers are not initialised. -/
def start (garbage : HidId) : Uevent := ⟨garbage, false, none, none⟩

/-- A line `KEY=value`. -/
def assign (found : Uevent) (key value : CString) : Uevent :=
  if key = keyId then
    let (count, id) := scanHidId value found.id
    { found with id, foundId := found.foundId || count == 3 }
  else if key = keyName then { found with productName := some value }
  else if key = keyUniq then { found with serialNumber := some value }
  else found

/-- One line of the text. -/
def line (found : Uevent) (text : CString) : Uevent :=
  match cut '=' text with
  | none => found
  | some (key, value) => found.assign key value

def parse (garbage : HidId) (text : CString) : Uevent :=
  (tokens '\n' text).foldl line (start garbage)

/-- The result of `parse_uevent_info`. -/
def result (found : Uevent) : Bool :=
  found.foundId && found.productName.isSome && found.serialNumber.isSome

/-! ## What the kernel prints -/

/-- A property of a uevent. -/
structure Property where
  key : CString
  value : CString
  cleanKey : '=' ∉ key ∧ '\n' ∉ key
  cleanValue : '\n' ∉ value

namespace Property

def text (property : Property) : CString := property.key ++ '=' :: property.value

theorem text_clean (property : Property) : property.text ≠ [] ∧ '\n' ∉ property.text := by
  refine ⟨by simp [text], ?_⟩
  rw [text, List.mem_append, List.mem_cons, not_or, not_or]
  exact ⟨property.cleanKey.2, by decide, property.cleanValue⟩

end Property

/-- The text of the attribute: one line for each property. -/
def ueventText (properties : List Property) : CString :=
  properties.flatMap fun property => property.text ++ ['\n']

/-- The value of `HID_ID`: `%04X:%08X:%08X`. -/
def idValue (bus vendor product : Nat) : CString :=
  printHex 4 bus ++ ':' :: (printHex 8 vendor ++ ':' :: printHex 8 product)

theorem stops_colon (rest : CString) : Stops (':' :: rest) := by
  intro char there
  have same : ':' = char := by simpa using there
  rw [← same]
  decide

theorem scanHidId_idValue (bus vendor product : UInt32) (id : HidId) :
    scanHidId (idValue bus.toNat vendor.toNat product.toNat) id =
      (3, ⟨bus, vendor.toUInt16, product.toUInt16⟩) := by
  have last : Stops [] := by simp [Stops]
  have whole := scanHex_printHex 8 product.toNat last
  rw [List.append_nil] at whole
  have short : ∀ number : UInt32, (unsignedLong false number.toNat) = number.toUInt64 := by
    intro number
    have below : number.toNat < 2 ^ 64 := Nat.lt_trans number.toNat_lt (by decide)
    rw [unsignedLong, if_pos below, if_neg Bool.false_ne_true, UInt64.ofNat_uInt32ToNat]
  simp only [scanHidId, idValue, scanHex_printHex 4 bus.toNat (stops_colon _),
    scanHex_printHex 8 vendor.toNat (stops_colon _), whole, short]
  simp

/-- The values that the lines of one key carry. -/
def values (key : CString) (properties : List Property) : List CString :=
  (properties.filter (·.key = key)).map Property.value

theorem values_append (key : CString) (properties : List Property) (last : Property) :
    values key (properties ++ [last]) =
      values key properties ++ if last.key = key then [last.value] else [] := by
  unfold values
  by_cases same : last.key = key <;> simp [same]

/-- Every line is read as the property it was printed from. -/
theorem parse_ueventText (garbage : HidId) (properties : List Property) :
    parse garbage (ueventText properties) =
      properties.foldl (fun found property => found.assign property.key property.value)
        (start garbage) := by
  have lines : tokens '\n' (ueventText properties) = properties.map Property.text := by
    have clean : ∀ line ∈ properties.map Property.text, line ≠ [] ∧ '\n' ∉ line := by
      intro line there
      obtain ⟨property, -, rfl⟩ := List.mem_map.mp there
      exact property.text_clean
    rw [← tokens_lines clean, List.flatMap_map]
    rfl
  have each : ∀ (found : Uevent) (property : Property),
      found.line property.text = found.assign property.key property.value := by
    intro found property
    rw [line, Property.text, cut_append property.cleanKey.1]
  rw [parse, lines, List.foldl_map]
  simp only [each]

/-- `HID_ID` lines that the kernel printed. -/
def Printed (properties : List Property) : Prop :=
  ∀ property ∈ properties, property.key = keyId →
    ∃ bus vendor product : UInt32,
      property.value = idValue bus.toNat vendor.toNat product.toNat

/-- What a text of printed properties is read as: the last line of each key wins. -/
structure ReadsBack (properties : List Property) (found : Uevent) : Prop where
  name : found.productName = (values keyName properties).getLast?
  serial : found.serialNumber = (values keyUniq properties).getLast?
  foundId : found.foundId = !(values keyId properties).isEmpty
  id : ∀ bus vendor product : UInt32,
    (values keyId properties).getLast? = some (idValue bus.toNat vendor.toNat product.toNat) →
      found.id = ⟨bus, vendor.toUInt16, product.toUInt16⟩

theorem ReadsBack.assign {properties : List Property} {found : Uevent}
    (before : ReadsBack properties found) (last : Property)
    (printed : last.key = keyId →
      ∃ bus vendor product : UInt32, last.value = idValue bus.toNat vendor.toNat product.toNat) :
    ReadsBack (properties ++ [last]) (found.assign last.key last.value) := by
  have nameIsNotId : keyName ≠ keyId := by decide
  have uniqIsNotId : keyUniq ≠ keyId := by decide
  have uniqIsNotName : keyUniq ≠ keyName := by decide
  unfold Uevent.assign
  split
  next isId =>
    obtain ⟨bus, vendor, product, printed⟩ := printed isId
    rw [printed, scanHidId_idValue]
    constructor
    · simpa [values_append, isId, Ne.symm nameIsNotId] using before.name
    · simpa [values_append, isId, Ne.symm uniqIsNotId] using before.serial
    · simp [values_append, isId]
    · intro otherBus otherVendor otherProduct latest
      have same : idValue bus.toNat vendor.toNat product.toNat =
          idValue otherBus.toNat otherVendor.toNat otherProduct.toNat := by
        simpa [values_append, isId, printed] using latest
      have read := scanHidId_idValue bus vendor product found.id
      rw [same, scanHidId_idValue] at read
      exact (Prod.ext_iff.mp read).2.symm
  next isNotId =>
    split
    next isName =>
      constructor
      · simp [values_append, isName]
      · simpa [values_append, isName, Ne.symm uniqIsNotName] using before.serial
      · simpa [values_append, isNotId] using before.foundId
      · simpa [values_append, isNotId] using before.id
    next isNotName =>
      split
      next isUniq =>
        constructor
        · simpa [values_append, isNotName] using before.name
        · simp [values_append, isUniq]
        · simpa [values_append, isNotId] using before.foundId
        · simpa [values_append, isNotId] using before.id
      next isNotUniq =>
        constructor
        · simpa [values_append, isNotName] using before.name
        · simpa [values_append, isNotUniq] using before.serial
        · simpa [values_append, isNotId] using before.foundId
        · simpa [values_append, isNotId] using before.id

/-- Whatever properties are printed, in whatever order, `parse_uevent_info` reads the
last value of each key. -/
theorem parse_reads_back (garbage : HidId) {properties : List Property}
    (printed : Printed properties) :
    ReadsBack properties (parse garbage (ueventText properties)) := by
  rw [parse_ueventText]
  induction properties using List.reverseRecOn with
  | nil =>
      constructor
      · rfl
      · rfl
      · rfl
      · intro bus vendor product latest
        cases latest
  | append_singleton properties last inductionHypothesis =>
      have earlier : Printed properties := fun property there =>
        printed property (List.mem_append_left _ there)
      rw [List.foldl_append]
      exact (inductionHypothesis earlier).assign last
        (printed last (List.mem_append_right _ List.mem_cons_self))

/-! ## The variables that were not initialised -/

/-- Two runs that differ in the variables that nothing has been stored in. -/
structure SameFindings (left right : Uevent) : Prop where
  foundId : left.foundId = right.foundId
  serial : left.serialNumber = right.serialNumber
  name : left.productName = right.productName
  id : left.foundId = true → left.id = right.id

theorem scanHidId_count (value : CString) (left right : HidId) :
    (scanHidId value left).1 = (scanHidId value right).1 := by
  unfold scanHidId
  split
  next => rfl
  next =>
    split
    next => split <;> [rfl; (split <;> [(split <;> rfl); rfl])]
    next => rfl

/-- Three conversions store all three variables. -/
theorem scanHidId_complete (value : CString) (left right : HidId)
    (complete : (scanHidId value left).1 = 3) : scanHidId value left = scanHidId value right := by
  unfold scanHidId at complete ⊢
  split at complete
  next => cases complete
  next =>
    split at complete
    next =>
      split at complete
      next => cases complete
      next =>
        split at complete
        next =>
          split at complete
          next => cases complete
          next => rfl
        next => cases complete
    next => cases complete

theorem SameFindings.line {left right : Uevent} (same : SameFindings left right)
    (text : CString) : SameFindings (left.line text) (right.line text) := by
  unfold Uevent.line
  split
  next => exact same
  next key value _ =>
    unfold assign
    split
    next =>
      have count := scanHidId_count value left.id right.id
      constructor
      · simp [same.foundId, count]
      · exact same.serial
      · exact same.name
      · intro found
        rcases Bool.or_eq_true_iff.mp found with before | now
        · show (scanHidId value left.id).2 = (scanHidId value right.id).2
          rw [same.id before]
        · have complete : (scanHidId value left.id).1 = 3 := by simpa using now
          exact congrArg Prod.snd (scanHidId_complete value left.id right.id complete)
    next =>
      split
      next => exact ⟨same.foundId, same.serial, rfl, same.id⟩
      next =>
        split
        next => exact ⟨same.foundId, rfl, same.name, same.id⟩
        next => exact same

namespace SameFindings

variable {left right : Uevent}

theorem result (same : SameFindings left right) : left.result = right.result := by
  simp only [Uevent.result, same.foundId, same.serial, same.name]

theorem eq (same : SameFindings left right) (result : right.result = true) :
    left = right := by
  have found : right.foundId = true := by
    simp only [Uevent.result, Bool.and_eq_true] at result
    exact result.1.1
  cases left
  cases right
  simp only [Uevent.mk.injEq]
  exact ⟨same.id (same.foundId.trans found), same.foundId, same.serial, same.name⟩

end SameFindings

/-- Whether the function succeeds, and what it yields then, does not depend on what
stood in the variables before. -/
theorem parse_sameFindings (left right : HidId) (text : CString) :
    SameFindings (parse left text) (parse right text) := by
  have steps : ∀ (lines : List CString) (one other : Uevent), SameFindings one other →
      SameFindings (lines.foldl Uevent.line one) (lines.foldl Uevent.line other) := by
    intro lines
    induction lines with
    | nil => exact fun _ _ same => same
    | cons text lines inductionHypothesis =>
        exact fun _ _ same => inductionHypothesis _ _ (same.line text)
  exact steps _ _ _ ⟨rfl, rfl, rfl, fun found => by cases found⟩

end Uevent

end MhWallet.Hid
