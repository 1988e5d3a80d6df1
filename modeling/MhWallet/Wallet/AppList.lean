import MhWallet.Wallet.Status

/-!
Contract: the application list, its encoding and the parser of `get_app_list`.

Owns: the layout of the list, and that the parser undoes it.

Does not own: how the response reached the wallet.
-/

namespace MhWallet

open MhWallet.Effect MhWallet.Method MhWallet.Bytes MhWallet.Framing

/-- An entry of the application list, with the length byte that precedes it and
that the parser skips. -/
structure AppRecord where
  entryLength : UInt8
  item : AppItem
  hashCodeData_length : item.hashCodeData.length = 32
  hash_length : item.hash.length = 32
  name_length : item.name.length ≤ 255

namespace AppRecord

/-- The bytes of an entry. -/
def toBytes (record : AppRecord) : Bytes :=
  [record.entryLength] ++ (bigEndian 4 record.item.flags.toNat ++
    (record.item.hashCodeData ++ (record.item.hash ++
      ([UInt8.ofNat record.item.name.length] ++ record.item.name))))

theorem toBytes_length (record : AppRecord) :
    record.toBytes.length = 70 + record.item.name.length := by
  unfold toBytes
  simp only [List.length_append, List.length_singleton, bigEndian_length,
    record.hashCodeData_length, record.hash_length]
  omega

end AppRecord

/-- The body of a response that lists these applications. -/
def appListBody (format : UInt8) (records : List AppRecord) : Bytes :=
  [format] ++ records.flatMap AppRecord.toBytes

namespace NanosWallet

variable {O σ : Type} (tb : Toolbox) (hid : Hidapi σ)

/-- The parser reads one entry where it starts, and stops where it ends. -/
theorem parseAppItem_run {response : Bytes} {offset : Nat} (record : AppRecord)
    (found : PartAt response offset record.toBytes) (scene : Scene O σ) :
    (parseAppItem tb response offset).run scene =
      (.ok (record.item, offset + record.toBytes.length), scene) := by
  unfold AppRecord.toBytes at found
  obtain ⟨-, found⟩ := found.split
  obtain ⟨flags, found⟩ := found.split
  obtain ⟨hashCodeData, found⟩ := found.split
  obtain ⟨hash, found⟩ := found.split
  obtain ⟨nameLen, name⟩ := found.split
  simp only [List.length_singleton, bigEndian_length, record.hashCodeData_length,
    record.hash_length] at flags hashCodeData hash nameLen name
  have length : (UInt8.ofNat record.item.name.length).toNat = record.item.name.length := by
    rw [UInt8.toNat_ofNat']
    exact Nat.mod_eq_of_lt (Nat.lt_succ_of_le record.name_length)
  have flagsRead : tb.toUInt32 response (offset + 1) = some record.item.flags := by
    have sliced := flags.slice
    rw [bigEndian_length] at sliced
    rw [tb.toUInt32_eq, sliced, Option.map_some,
      ofBigEndian_bigEndian_of_lt record.item.flags.toNat_lt, UInt32.ofNat_toNat]
  have hashCodeDataRead : tb.takeRange response (offset + 1 + 4) (offset + 1 + 4 + 32) =
      some record.item.hashCodeData := by
    rw [tb.takeRange_eq, ← hashCodeData.slice, record.hashCodeData_length]
  have hashRead : tb.takeRange response (offset + 1 + 4 + 32) (offset + 1 + 4 + 32 + 32) =
      some record.item.hash := by
    rw [tb.takeRange_eq, ← hash.slice, record.hash_length]
  have nameLenRead : response[offset + 1 + 4 + 32 + 32]? =
      some (UInt8.ofNat record.item.name.length) := nameLen.head
  have nameRead : tb.takeRangeC response (offset + 1 + 4 + 32 + 32 + 1)
      (offset + 1 + 4 + 32 + 32 + 1 + record.item.name.length) = some record.item.name := by
    rw [tb.takeRangeC_eq, ← name.slice]
  have stop : offset + 1 + 4 + 32 + 32 + (1 + record.item.name.length) =
      offset + record.toBytes.length := by
    rw [record.toBytes_length]
    omega
  unfold parseAppItem
  simp only [Action.run_bind, flagsRead, hashCodeDataRead, hashRead, run_orOutOfRange_some,
    nameLenRead, Action.run_ofOption, length, nameRead, Action.run_pure, stop]

theorem parseAppList_end (response : Bytes) (rounds : Nat) (out : List AppItem) :
    (parseAppList tb response rounds response.length out : Method O σ _) = pure out := by
  unfold parseAppList
  rw [if_neg (not_not.mpr rfl)]

/-- The loop reads the entries in front of it, appends them, and goes on behind
them. -/
theorem parseAppList_skip {response left : Bytes} (scene : Scene O σ) :
    ∀ (records : List AppRecord) (read : Bytes) (rounds : Nat) (out : List AppItem),
      response = read ++ (records.flatMap AppRecord.toBytes ++ left) →
      (parseAppList tb response (records.length + rounds) read.length out).run scene =
        (parseAppList tb response rounds (read ++ records.flatMap AppRecord.toBytes).length
          (out ++ records.map AppRecord.item)).run scene := by
  intro records
  induction records with
  | nil =>
      intro read rounds out _
      simp
  | cons record records inductionHypothesis =>
      intro read rounds out split
      rw [List.flatMap_cons, List.append_assoc] at split
      have found : PartAt response read.length record.toBytes :=
        ⟨read, records.flatMap AppRecord.toBytes ++ left, split, rfl⟩
      have more : read.length ≠ response.length := by
        rw [split, List.length_append, List.length_append, record.toBytes_length]
        omega
      have continued := inductionHypothesis (read ++ record.toBytes) rounds
        (out ++ [record.item]) (by rw [split, List.append_assoc])
      rw [List.append_assoc, List.append_assoc, List.length_append, ← List.flatMap_cons,
        List.singleton_append, ← List.map_cons] at continued
      rw [List.length_cons, Nat.add_right_comm, parseAppList, if_pos more]
      exact (Action.run_bind_ok (parseAppItem_run tb record found scene) _).trans continued

theorem records_length_le (records : List AppRecord) :
    records.length ≤ (records.flatMap AppRecord.toBytes).length := by
  induction records with
  | nil => exact Nat.le_refl 0
  | cons record records inductionHypothesis =>
      rw [List.flatMap_cons, List.length_append, record.toBytes_length, List.length_cons]
      omega

/-- From the start of a body, the loop reads the entries, and has as many rounds
left as there are bytes behind them. -/
theorem parseAppList_behind (format : UInt8) (records : List AppRecord) (left : Bytes)
    (scene : Scene O σ) :
    let body := appListBody format records ++ left
    ∃ rounds, left.length ≤ rounds ∧
      (parseAppList tb body body.length 1 []).run scene =
        (parseAppList tb body rounds (appListBody format records).length
          (records.map AppRecord.item)).run scene := by
  intro body
  have enough := records_length_le records
  have size : body.length = records.length + (body.length - records.length) ∧
      left.length ≤ body.length - records.length := by
    simp only [body, appListBody, List.length_append, List.length_singleton]
    omega
  refine ⟨body.length - records.length, size.2, ?_⟩
  have skipped := @parseAppList_skip O σ tb body left scene records [format]
    (body.length - records.length) [] (List.append_assoc _ _ _)
  rw [← size.1] at skipped
  exact skipped

/-- Parsing a list of applications gives these applications. -/
theorem parseAppList_appListBody (format : UInt8) (records : List AppRecord)
    (scene : Scene O σ) :
    let body := appListBody format records
    (parseAppList tb body body.length 1 []).run scene =
      (.ok (records.map AppRecord.item), scene) := by
  intro body
  obtain ⟨rounds, -, behind⟩ := parseAppList_behind tb format records [] scene
  rw [List.append_nil] at behind
  rw [behind, parseAppList_end]
  rfl

variable {tb hid}

/-- After a response with a success status, `get_app_list` parses it. -/
theorem getAppList_run {scene reached : Scene NanosWallet σ} {retries : Nat} {response : Bytes}
    (answered : (exchange tb hid retries getAppListApdu (some codeSuccess)).run scene =
      (.ok (response, some codeSuccess), reached)) :
    (getAppList tb hid retries).run scene =
      if response = [] then (.ok [], reached)
      else (parseAppList tb response response.length 1 []).run reached := by
  have passed : (getAppListResponse tb hid retries).run scene = (.ok response, reached) :=
    command_run_of_success tb hid answered _
  unfold getAppList
  rw [Action.run_bind_ok passed]
  split <;> rfl

/-- `get_app_list` returns the applications that a successful response lists. -/
theorem getAppList_undoes_encoding {scene reached : Scene NanosWallet σ} {retries : Nat}
    {format : UInt8} {records : List AppRecord}
    (answered : (exchange tb hid retries getAppListApdu (some codeSuccess)).run scene =
      (.ok (appListBody format records, some codeSuccess), reached)) :
    (getAppList tb hid retries).run scene =
      (.ok (records.map AppRecord.item), reached) := by
  rw [getAppList_run answered, if_neg (by simp [appListBody])]
  exact parseAppList_appListBody tb format records reached

/-- The entry of an application without a name. -/
def blankRecord : AppRecord where
  entryLength := 70
  item := { name := [], hash := List.replicate 32 2, hashCodeData := List.replicate 32 1,
            flags := 0x01020304 }
  hashCodeData_length := by decide
  hash_length := by decide
  name_length := by decide

/-- A list of one application, in two reports. -/
def appListReports : List ReadResult :=
  (inputReports (responseMessage (appListBody 1 [blankRecord]) codeSuccess)).map
    ReadResult.ofReport

theorem getAppList_undoes_encoding_of_blank :
    ((getAppList Toolbox.reference Script.device 0).run (opened appListReports)).1 =
      .ok [blankRecord.item] := by
  have outcome : ((exchange Toolbox.reference Script.device 0 getAppListApdu
      (some codeSuccess)).run (opened appListReports)).1 =
      .ok (appListBody 1 [blankRecord], some codeSuccess) := by
    decide +kernel
  rw [getAppList_undoes_encoding (Action.run_of_outcome outcome)]
  rfl

end NanosWallet

end MhWallet
