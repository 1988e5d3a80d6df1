import MhWallet.Toolbox

/-!
Contract: `uses_numbered_reports` of `linux/hid.c`, on any report descriptor.

A descriptor is a sequence of items.  The function never takes a byte of an item's
data for the key of another item, and copes with a last item that is cut off.

Owns: the walk over the items, and items with their encoding.

Does not own: what the items mean, apart from the report ID.
-/

namespace MhWallet.Hid

/-- The key of a report ID item. -/
def reportId : UInt8 := 0x85

/-- The length of the data of an item, where its key is followed by `next`. -/
def dataLen (key : UInt8) (next : Option UInt8) : Nat :=
  if key &&& 0xf0 = 0xf0 then
    match next with
    | some length => length.toNat
    | none => 0
  else if key &&& 3 = 3 then 4
  else (key &&& 3).toNat

def keySize (key : UInt8) : Nat := if key &&& 0xf0 = 0xf0 then 3 else 1

/-- The loop of `uses_numbered_reports` over the rest of the descriptor.  Every round
passes a byte. -/
def scanItems : Nat → Bytes → Bool
  | _, [] => false
  | 0, _ :: _ => false
  | rounds + 1, key :: rest =>
      if key = reportId then true
      else scanItems rounds ((key :: rest).drop (dataLen key rest.head? + keySize key))

def usesNumberedReports (descriptor : Bytes) : Bool :=
  scanItems descriptor.length descriptor

/-! ## Items -/

inductive Item where
  | short (key : UInt8) (data : Bytes) (isShort : key &&& 0xf0 ≠ 0xf0)
      (sized : data.length = dataLen key none)
  | long (key tag : UInt8) (data : Bytes) (isLong : key &&& 0xf0 = 0xf0)
      (fits : data.length < 256)

namespace Item

def key : Item → UInt8
  | short key _ _ _ => key
  | long key _ _ _ _ => key

def encode : Item → Bytes
  | short key data _ _ => key :: data
  | long key tag data _ _ => key :: UInt8.ofNat data.length :: tag :: data

end Item

/-- The length of a short item does not depend on what follows its key. -/
theorem dataLen_short {key : UInt8} (isShort : key &&& 0xf0 ≠ 0xf0) (next : Option UInt8) :
    dataLen key next = dataLen key none := by
  simp only [dataLen, if_neg isShort]

theorem dataLen_long {key : UInt8} {data : Bytes} (isLong : key &&& 0xf0 = 0xf0)
    (fits : data.length < 256) :
    dataLen key (some (UInt8.ofNat data.length)) = data.length := by
  simp only [dataLen, if_pos isLong, UInt8.toNat_ofNat']
  exact Nat.mod_eq_of_lt fits

theorem keySize_pos (key : UInt8) : 1 ≤ keySize key := by
  unfold keySize
  split <;> decide

/-- More rounds than bytes change nothing. -/
theorem scanItems_enough {rounds : Nat} {rest : Bytes} (enough : rest.length ≤ rounds) :
    scanItems rounds rest = usesNumberedReports rest := by
  have agree : ∀ (more less : Nat) (rest : Bytes), rest.length ≤ less → less ≤ more →
      scanItems more rest = scanItems less rest := by
    intro more
    induction more with
    | zero =>
        intro less rest _ below
        rw [Nat.le_zero.mp below]
    | succ more inductionHypothesis =>
        intro less rest enough below
        cases rest with
        | nil =>
            cases less <;> rfl
        | cons key rest =>
            cases less with
            | zero => cases enough
            | succ less =>
                rw [scanItems, scanItems]
                split
                next => rfl
                next =>
                  apply inductionHypothesis
                  · have passed := keySize_pos key
                    rw [List.length_drop]
                    omega
                  · omega
  exact agree rounds rest.length rest (Nat.le_refl _) enough

/-- One item, whole or cut off, and what follows it. -/
theorem usesNumberedReports_cons (key : UInt8) (rest : Bytes) :
    usesNumberedReports (key :: rest) = (key == reportId ||
      usesNumberedReports ((key :: rest).drop (dataLen key rest.head? + keySize key))) := by
  have passed := keySize_pos key
  rw [usesNumberedReports, List.length_cons, scanItems]
  split
  next same => simp [same]
  next differ =>
    rw [scanItems_enough, beq_false_of_ne differ, Bool.false_or]
    rw [List.length_drop, List.length_cons]
    omega

theorem usesNumberedReports_item (item : Item) (rest : Bytes) :
    usesNumberedReports (item.encode ++ rest) =
      (item.key == reportId || usesNumberedReports rest) := by
  cases item with
  | short key data isShort sized =>
      rw [Item.encode, List.cons_append, usesNumberedReports_cons, dataLen_short isShort, ← sized,
        keySize, if_neg isShort, List.drop_succ_cons, List.drop_left, Item.key]
  | long key tag data isLong fits =>
      rw [Item.encode, List.cons_append, usesNumberedReports_cons, List.cons_append,
        List.head?_cons, dataLen_long isLong fits, keySize, if_pos isLong, List.drop_succ_cons,
        List.drop_succ_cons, List.cons_append, List.drop_succ_cons, List.drop_left, Item.key]

/-- An item that is cut off ends the walk. -/
theorem usesNumberedReports_cut (item : Item) {length : Nat}
    (cut : length < item.encode.length) :
    usesNumberedReports (item.encode.take length) =
      (decide (0 < length) && item.key == reportId) := by
  cases length with
  | zero => rfl
  | succ length =>
      rw [show decide (0 < length + 1) = true from by simp, Bool.true_and]
      cases item with
      | short key data isShort sized =>
          have beyond : (data.take length).drop data.length = [] := by
            apply List.drop_eq_nil_of_le
            rw [List.length_take]
            omega
          rw [Item.encode, List.take_succ_cons, usesNumberedReports_cons,
            dataLen_short isShort, ← sized, keySize, if_neg isShort, List.drop_succ_cons,
            beyond, Item.key]
          simp [usesNumberedReports, scanItems]
      | long key tag data isLong fits =>
          rw [Item.encode, List.take_succ_cons, usesNumberedReports_cons, keySize,
            if_pos isLong, List.drop_succ_cons, Item.key]
          cases length with
          | zero => simp [usesNumberedReports, scanItems]
          | succ length =>
              have beyond : ((tag :: data).take length).drop (data.length + 1) = [] := by
                apply List.drop_eq_nil_of_le
                rw [List.length_take, List.length_cons]
                omega
              rw [List.take_succ_cons, List.head?_cons, dataLen_long isLong fits,
                List.drop_succ_cons, beyond]
              simp [usesNumberedReports, scanItems]

/-- Whatever items a descriptor consists of, and wherever its last item is cut off,
the result says whether one of them is a report ID. -/
theorem report_ids_found (items : List Item) (last : Item) {length : Nat}
    (cut : length < last.encode.length) :
    usesNumberedReports (items.flatMap Item.encode ++ last.encode.take length) =
      (items.any (·.key == reportId) || (decide (0 < length) && last.key == reportId)) := by
  induction items with
  | nil => exact usesNumberedReports_cut last cut
  | cons item items inductionHypothesis =>
      rw [List.flatMap_cons, List.append_assoc, usesNumberedReports_item, inductionHypothesis,
        List.any_cons, Bool.or_assoc]

/-- Data with the value of the key, in a short item and in a long one that is cut off. -/
theorem report_ids_found_of_data :
    usesNumberedReports (Item.encode (.short 0x26 [0x85, 0x85] (by decide) (by decide)) ++
      (Item.encode (.long 0xfe 0 [0x85, 0x85] (by decide) (by decide))).take 4) = false := by
  have found := report_ids_found [.short 0x26 [0x85, 0x85] (by decide) (by decide)]
    (.long 0xfe 0 [0x85, 0x85] (by decide) (by decide)) (show 4 < 5 by decide)
  rw [List.flatMap_singleton] at found
  rw [found]
  decide

end MhWallet.Hid
