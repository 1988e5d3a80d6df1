import MhWallet.Wallet.AppList

/-!
Contract: what `get_app_list` makes of any bytes that come with a success status.

The parser finds the entries by their name lengths.  Behind the last entry that
it finds it stops, throws, or reads one byte past the end: the length of a name
is read by `operator[]`, which does not check, and it is the only field read so.

Owns: the outcome for every body, and the offsets that the loop passes through.
-/

namespace MhWallet

open MhWallet.Effect MhWallet.Method MhWallet.Bytes MhWallet.Framing

/-! ## Bytes that begin with an entry -/

namespace AppRecord

/-- Bytes in front of the others. -/
private theorem front {count : Nat} {data : Bytes} (long : count ≤ data.length) :
    ∃ part rest, data = part ++ rest ∧ part.length = count :=
  ⟨data.take count, data.drop count, (List.take_append_drop count data).symm,
    List.length_take_of_le long⟩

/-- Bytes with room for a name and all that precedes it begin with an entry. -/
theorem exists_of_room {data : Bytes} {nameLen : UInt8} (found : data[69]? = some nameLen)
    (room : 70 + nameLen.toNat ≤ data.length) :
    ∃ (record : AppRecord) (after : Bytes), data = record.toBytes ++ after := by
  obtain ⟨entryLength, data, rfl⟩ :=
    List.exists_cons_of_length_pos (by omega : 0 < data.length)
  rw [List.length_cons] at room
  obtain ⟨flags, data, rfl, flagsLength⟩ := front (by omega : 4 ≤ data.length)
  rw [List.length_append, flagsLength] at room
  obtain ⟨hashCodeData, data, rfl, hashCodeDataLength⟩ := front (by omega : 32 ≤ data.length)
  rw [List.length_append, hashCodeDataLength] at room
  obtain ⟨hash, data, rfl, hashLength⟩ := front (by omega : 32 ≤ data.length)
  rw [List.length_append, hashLength] at room
  obtain ⟨lengthByte, data, rfl⟩ :=
    List.exists_cons_of_length_pos (by omega : 0 < data.length)
  rw [List.length_cons] at room
  obtain ⟨name, after, rfl, nameLength⟩ := front (by omega : nameLen.toNat ≤ data.length)
  have nameLengthByte : lengthByte = UInt8.ofNat name.length := by
    have same : lengthByte = nameLen := by
      simpa [List.getElem?_append, flagsLength, hashCodeDataLength, hashLength] using found
    rw [nameLength, UInt8.ofNat_toNat, same]
  have flagsBytes : bigEndian 4 (UInt32.ofNat (ofBigEndian flags)).toNat = flags := by
    have small : ofBigEndian flags < 2 ^ 32 := by
      have bound := ofBigEndian_lt flags
      rw [flagsLength] at bound
      exact bound
    rw [UInt32.toNat_ofNat', Nat.mod_eq_of_lt small, ← flagsLength, bigEndian_ofBigEndian]
  have short : name.length ≤ 255 := by
    have := nameLen.toNat_lt
    omega
  refine ⟨{ entryLength, item := { name, hash, hashCodeData, flags := .ofNat (ofBigEndian flags) },
            hashCodeData_length := hashCodeDataLength, hash_length := hashLength,
            name_length := short }, after, ?_⟩
  rw [nameLengthByte, toBytes, flagsBytes]
  simp only [List.append_assoc, List.cons_append, List.nil_append]

end AppRecord

/-- Behind the entries that the bytes begin with, they do not begin with another. -/
theorem exists_records (data : Bytes) :
    ∃ (records : List AppRecord) (left : Bytes),
      data = records.flatMap AppRecord.toBytes ++ left ∧
        ∀ (record : AppRecord) (after : Bytes), left ≠ record.toBytes ++ after := by
  induction size : data.length using Nat.strongRecOn generalizing data with
  | _ size inductionHypothesis =>
      by_cases begins : ∃ (record : AppRecord) (after : Bytes), data = record.toBytes ++ after
      · obtain ⟨record, after, rfl⟩ := begins
        obtain ⟨records, left, split, last⟩ := inductionHypothesis after.length (by
          rw [← size, List.length_append, record.toBytes_length]
          omega) after rfl
        exact ⟨record :: records, left, by rw [split, List.flatMap_cons, List.append_assoc], last⟩
      · exact ⟨[], data, rfl, fun record after same => begins ⟨record, after, same⟩⟩

theorem appListBody_concat (format : UInt8) (records : List AppRecord) (record : AppRecord) :
    appListBody format (records ++ [record]) =
      appListBody format records ++ record.toBytes := by
  simp [appListBody]

/-- The body lists applications, and then one without its name and the length of
the name. -/
def CutShort (response : Bytes) : Prop :=
  ∃ (format : UInt8) (records : List AppRecord) (left : Bytes),
    response = appListBody format records ++ left ∧ left.length = 69

namespace NanosWallet

variable {O σ : Type} (tb : Toolbox) (hid : Hidapi σ)

/-! ## The parser -/

/-- Where no entry begins, the parser reads past the end exactly if the bytes end
in front of the length of a name, and throws otherwise. -/
theorem parseAppItem_refuses {response : Bytes} {offset : Nat}
    (none : ∀ record : AppRecord, ¬ PartAt response offset record.toBytes)
    (within : offset ≤ response.length) (scene : Scene O σ) :
    (parseAppItem tb response offset).run scene =
      (.error (if response.length = offset + 69 then .undefined else .throws .outOfRange),
        scene) := by
  unfold parseAppItem
  simp only [Action.run_bind, tb.toUInt32_eq, tb.takeRange_eq, tb.takeRangeC_eq]
  by_cases whole : offset + 69 ≤ response.length
  · rw [slice?_of_le (by omega) (by omega : offset + 1 + 4 ≤ response.length),
      slice?_of_le (by omega) (by omega : offset + 1 + 4 + 32 ≤ response.length),
      slice?_of_le (by omega) (by omega : offset + 1 + 4 + 32 + 32 ≤ response.length)]
    simp only [Option.map_some, run_orOutOfRange_some]
    rcases found : response[offset + 1 + 4 + 32 + 32]? with _ | nameLen
    · have ends : response.length = offset + 69 := by
        have := List.getElem?_eq_none_iff.mp found
        omega
      rw [if_pos ends]
      rfl
    · have inside := (List.getElem?_eq_some_iff.mp found).1
      have outside : slice? response (offset + 1 + 4 + 32 + 32 + 1)
          (offset + 1 + 4 + 32 + 32 + 1 + nameLen.toNat) = .none := by
        apply slice?_of_not
        rintro ⟨-, room⟩
        have foundBehind : (response.drop offset)[69]? = some nameLen := by
          rw [List.getElem?_drop, ← found]
        obtain ⟨record, after, split⟩ := AppRecord.exists_of_room foundBehind
          (by rw [List.length_drop]; omega)
        apply none record
        exact ⟨response.take offset, after, by rw [← split, List.take_append_drop],
          List.length_take_of_le within⟩
      rw [if_neg (by omega)]
      simp only [Action.run_ofOption, outside]
      rfl
  · -- One of the checked reads throws.
    rw [if_neg (by omega)]
    rcases slice? response (offset + 1) (offset + 1 + 4) with _ | flags
    · rfl
    · rcases slice? response (offset + 1 + 4) (offset + 1 + 4 + 32) with _ | hashCodeData
      · rfl
      · rcases third : slice? response (offset + 1 + 4 + 32) (offset + 1 + 4 + 32 + 32) with
          _ | hash
        · rfl
        · have := (length_of_slice? third).2.2
          omega

/-- Where the entries end, no entry begins. -/
theorem not_partAt_behind {format : UInt8} {records : List AppRecord} {left : Bytes}
    (last : ∀ (record : AppRecord) (after : Bytes), left ≠ record.toBytes ++ after)
    (record : AppRecord) :
    ¬ PartAt (appListBody format records ++ left) (appListBody format records).length
      record.toBytes := by
  rintro ⟨before, after, split, length⟩
  exact last record after (List.append_inj split length.symm).2

/-- The loop on a body, by what is left behind the last entry. -/
theorem parseAppList_outcome (format : UInt8) (records : List AppRecord) {left : Bytes}
    (last : ∀ (record : AppRecord) (after : Bytes), left ≠ record.toBytes ++ after)
    (scene : Scene O σ) :
    let body := appListBody format records ++ left
    (parseAppList tb body body.length 1 []).run scene =
      (if left = [] then .ok (records.map AppRecord.item)
        else .error (if left.length = 69 then .undefined else .throws .outOfRange), scene) := by
  intro body
  obtain ⟨rounds, enough, behind⟩ := parseAppList_behind tb format records left scene
  rw [behind]
  by_cases empty : left = []
  · subst empty
    rw [List.append_nil, parseAppList_end, if_pos rfl]
    rfl
  · have positive := List.length_pos_iff.mpr empty
    obtain ⟨rounds, rfl⟩ : ∃ fewer, rounds = fewer + 1 := ⟨rounds - 1, by omega⟩
    have size : (appListBody format records ++ left).length =
        (appListBody format records).length + left.length := List.length_append
    have refused := @parseAppItem_refuses O σ tb (appListBody format records ++ left)
      (appListBody format records).length (not_partAt_behind last) (by omega) scene
    simp only [size, Nat.add_left_cancel_iff] at refused
    rw [if_neg empty, parseAppList, if_pos (by omega)]
    exact Action.run_bind_error refused _

/-- Every body is a format byte, entries, and something in front of which no
further entry begins. -/
theorem exists_appListBody {response : Bytes} (nonempty : response ≠ []) :
    ∃ (format : UInt8) (records : List AppRecord) (left : Bytes),
      response = appListBody format records ++ left ∧
        ∀ (record : AppRecord) (after : Bytes), left ≠ record.toBytes ++ after := by
  obtain ⟨format, rest, rfl⟩ := List.exists_cons_of_ne_nil nonempty
  obtain ⟨records, left, rfl, last⟩ := exists_records rest
  exact ⟨format, records, left, rfl, last⟩

/-- Bytes that are one short of an entry without a name begin with none. -/
theorem ne_toBytes_of_cut {left : Bytes} (cut : left.length = 69) (record : AppRecord)
    (after : Bytes) : left ≠ record.toBytes ++ after := by
  rintro rfl
  rw [List.length_append, record.toBytes_length] at cut
  omega

/-! ## The call -/

variable {tb hid}

/-- The offsets at which the loop on a response tests whether it is done. -/
inductive LoopAt (tb : Toolbox) (response : Bytes) (scene : Scene O σ) : Nat → Prop
  | start (nonempty : response ≠ []) : LoopAt tb response scene 1
  | next {offset after : Nat} {item : AppItem} (earlier : LoopAt tb response scene offset)
      (more : offset ≠ response.length)
      (parsed : (parseAppItem tb response offset).run scene = (.ok (item, after), scene)) :
      LoopAt tb response scene after

/-- The loop is always behind some entries. -/
theorem LoopAt.behind {response : Bytes} {scene : Scene O σ} {offset : Nat}
    (reached : LoopAt tb response scene offset) :
    ∃ (format : UInt8) (records : List AppRecord) (left : Bytes),
      response = appListBody format records ++ left ∧
        offset = (appListBody format records).length := by
  induction reached with
  | start nonempty =>
      obtain ⟨format, rest, rfl⟩ := List.exists_cons_of_ne_nil nonempty
      exact ⟨format, [], rest, rfl, rfl⟩
  | @next offset after item _ more parsed inductionHypothesis =>
      obtain ⟨format, records, left, rfl, rfl⟩ := inductionHypothesis
      by_cases begins : ∃ (record : AppRecord) (after : Bytes), left = record.toBytes ++ after
      · obtain ⟨record, rest, rfl⟩ := begins
        have found : PartAt (appListBody format records ++ (record.toBytes ++ rest))
            (appListBody format records).length record.toBytes := ⟨_, rest, rfl, rfl⟩
        rw [parseAppItem_run tb record found scene] at parsed
        simp only [Prod.mk.injEq, Except.ok.injEq, and_true] at parsed
        obtain ⟨-, rfl⟩ := parsed
        refine ⟨format, records ++ [record], rest, ?_, ?_⟩
        · rw [appListBody_concat, List.append_assoc]
        · rw [appListBody_concat, List.length_append]
      · have last : ∀ (record : AppRecord) (after : Bytes), left ≠ record.toBytes ++ after :=
          fun record after same => begins ⟨record, after, same⟩
        have none := @not_partAt_behind format records left last
        rw [parseAppItem_refuses tb none (by simp) scene] at parsed
        simp at parsed

/-- The call comes back with a list or with `std::out_of_range`, and its loop
neither passes the end of the response nor reads a byte beyond it. -/
structure ListsSafely (tb : Toolbox) (hid : Hidapi σ) (retries : Nat) (response : Bytes)
    (scene : Scene NanosWallet σ) : Prop where
  comesBack : (∃ items, ((getAppList tb hid retries).run scene).1 = .ok items) ∨
    ((getAppList tb hid retries).run scene).1 = .error (.throws .outOfRange)
  inside : ∀ offset, LoopAt tb response scene offset → offset ≤ response.length ∧
    (offset ≠ response.length →
      ((parseAppItem tb response offset).run scene).1 ≠ .error .undefined)

section Answered

variable {scene reached : Scene NanosWallet σ} {retries : Nat} {response : Bytes}
  (answered : (exchange tb hid retries getAppListApdu (some codeSuccess)).run scene =
    (.ok (response, some codeSuccess), reached))

include answered

/-- The call, by what is left behind the last entry. -/
theorem getAppList_outcome {format : UInt8} {records : List AppRecord} {left : Bytes}
    (body : response = appListBody format records ++ left)
    (last : ∀ (record : AppRecord) (after : Bytes), left ≠ record.toBytes ++ after) :
    ((getAppList tb hid retries).run scene).1 =
      if left = [] then .ok (records.map AppRecord.item)
      else .error (if left.length = 69 then .undefined else .throws .outOfRange) := by
  subst body
  rw [getAppList_run answered, if_neg (by simp [appListBody]),
    parseAppList_outcome tb format records last reached]

/-- `get_app_list` is safe exactly if the response does not end in front of the
length of a name. -/
theorem getAppList_safe_iff :
    ListsSafely tb hid retries response scene ↔ ¬ CutShort response := by
  constructor
  · rintro safe ⟨format, records, left, body, cut⟩
    have nonempty : left ≠ [] := List.ne_nil_of_length_pos (by omega)
    have outcome := getAppList_outcome answered body (ne_toBytes_of_cut cut)
    rw [if_neg nonempty, if_pos cut] at outcome
    rcases safe.comesBack with ⟨items, returned⟩ | thrown
    · rw [outcome] at returned
      simp at returned
    · rw [outcome] at thrown
      simp at thrown
  · intro whole
    refine ⟨?_, ?_⟩
    · by_cases empty : response = []
      · rw [getAppList_run answered, if_pos empty]
        exact .inl ⟨[], rfl⟩
      · obtain ⟨format, records, left, body, last⟩ := exists_appListBody empty
        rw [getAppList_outcome answered body last]
        have uncut : left.length ≠ 69 := fun cut => whole ⟨format, records, left, body, cut⟩
        rw [if_neg uncut]
        split
        · exact .inl ⟨_, rfl⟩
        · exact .inr rfl
    · intro offset looped
      obtain ⟨format, records, left, rfl, rfl⟩ := looped.behind
      have within : (appListBody format records).length ≤
          (appListBody format records ++ left).length := by
        rw [List.length_append]
        exact Nat.le_add_right _ _
      refine ⟨within, fun _ undefined => ?_⟩
      by_cases begins : ∃ record : AppRecord, PartAt (appListBody format records ++ left)
          (appListBody format records).length record.toBytes
      · obtain ⟨record, found⟩ := begins
        rw [parseAppItem_run tb record found scene] at undefined
        simp at undefined
      · rw [parseAppItem_refuses tb (not_exists.mp begins) within scene] at undefined
        split at undefined
        next size =>
          apply whole
          refine ⟨format, records, left, rfl, ?_⟩
          rw [List.length_append] at size
          omega
        next => simp at undefined

/-- A list that `get_app_list` returns is in the response, entry by entry, and
each entry is as long as its name says; any other response makes the call throw,
if it does not end in front of the length of a name. -/
theorem getAppList_accepts_records :
    (∀ items, ((getAppList tb hid retries).run scene).1 = .ok items → 1 < response.length →
      ∃ (format : UInt8) (records : List AppRecord),
        response = appListBody format records ∧ items = records.map AppRecord.item) ∧
    (1 < response.length →
      (∀ (format : UInt8) (records : List AppRecord), response ≠ appListBody format records) →
      ¬ CutShort response →
      ((getAppList tb hid retries).run scene).1 = .error (.throws .outOfRange)) := by
  by_cases empty : response = []
  · simp [empty]
  · obtain ⟨format, records, left, body, last⟩ := exists_appListBody empty
    rw [getAppList_outcome answered body last]
    constructor
    · intro items returned _
      split at returned
      next none =>
        rw [Except.ok.injEq] at returned
        exact ⟨format, records, by rw [body, none, List.append_nil], returned.symm⟩
      next => simp at returned
    · intro _ other whole
      have more : left ≠ [] := by
        rintro rfl
        exact other format records (by rw [body, List.append_nil])
      have uncut : left.length ≠ 69 := fun cut => whole ⟨format, records, left, body, cut⟩
      rw [if_neg more, if_neg uncut]

end Answered

/-! ## Two bodies -/

theorem blank_answered :
    (exchange Toolbox.reference Script.device 0 getAppListApdu (some codeSuccess)).run
        (opened appListReports) =
      (.ok (appListBody 1 [blankRecord], some codeSuccess),
        ((exchange Toolbox.reference Script.device 0 getAppListApdu (some codeSuccess)).run
          (opened appListReports)).2) := by
  apply Action.run_of_outcome
  decide +kernel

theorem blank_listed :
    ((getAppList Toolbox.reference Script.device 0).run (opened appListReports)).1 =
      .ok [blankRecord.item] := by
  decide +kernel

/-- A list of one application is parsed safely. -/
theorem getAppList_safe_of_blank :
    ListsSafely Toolbox.reference Script.device 0 (appListBody 1 [blankRecord])
      (opened appListReports) := by
  apply (getAppList_safe_iff blank_answered).mpr
  rintro ⟨format, records, left, body, cut⟩
  have size := congrArg List.length body
  have total : (appListBody 1 [blankRecord]).length = 71 := by decide
  rw [total, List.length_append, cut, appListBody, List.length_append,
    List.length_singleton] at size
  cases records with
  | nil => simp at size
  | cons record records =>
      rw [List.flatMap_cons, List.length_append, record.toBytes_length] at size
      omega

/-- An entry that ends in front of the length of its name. -/
def cutReports : List ReadResult :=
  (inputReports (responseMessage (List.replicate 70 0) codeSuccess)).map ReadResult.ofReport

/-- The length of a name is read past the end of the response. -/
theorem getAppList_reads_past_end :
    ¬ ∀ (tb : Toolbox) (hid : Hidapi Script) (retries : Nat) (response : Bytes)
        (scene reached : Scene NanosWallet Script),
      (exchange tb hid retries getAppListApdu (some codeSuccess)).run scene =
        (.ok (response, some codeSuccess), reached) →
      ListsSafely tb hid retries response scene := by
  intro safe
  have outcome : ((exchange Toolbox.reference Script.device 0 getAppListApdu
      (some codeSuccess)).run (opened cutReports)).1 =
      .ok (List.replicate 70 0, some codeSuccess) := by
    decide +kernel
  have undefined : ((getAppList Toolbox.reference Script.device 0).run (opened cutReports)).1 =
      .error .undefined := by
    decide +kernel
  rcases (safe Toolbox.reference Script.device 0 _ (opened cutReports) _
    (Action.run_of_outcome outcome)).comesBack with ⟨items, returned⟩ | thrown
  · rw [undefined] at returned
    simp at returned
  · rw [undefined] at thrown
    simp at thrown

theorem getAppList_accepts_blank :
    ∃ (format : UInt8) (records : List AppRecord),
      appListBody 1 [blankRecord] = appListBody format records ∧
        [blankRecord.item] = records.map AppRecord.item :=
  (getAppList_accepts_records blank_answered).1 _ blank_listed (by decide)

/-- The length in front of an entry is not compared with the entry: one that is
wrong is accepted. -/
theorem getAppList_accepts_wrong_length :
    ¬ ∀ (tb : Toolbox) (hid : Hidapi Script) (retries : Nat) (response : Bytes)
        (scene reached : Scene NanosWallet Script) (items : List AppItem),
      (exchange tb hid retries getAppListApdu (some codeSuccess)).run scene =
        (.ok (response, some codeSuccess), reached) →
      ((getAppList tb hid retries).run scene).1 = .ok items → 1 < response.length →
      ∃ (format : UInt8) (records : List AppRecord), response = appListBody format records ∧
        items = records.map AppRecord.item ∧ ∀ record ∈ records,
          record.entryLength.toNat = 4 + 32 + 32 + 1 + record.item.name.length := by
  intro delimited
  obtain ⟨format, records, body, items, lengths⟩ := delimited Toolbox.reference Script.device 0
    _ _ _ _ blank_answered blank_listed (by decide)
  rcases records with _ | ⟨record, _ | ⟨other, records⟩⟩
  · simp at items
  · rw [List.map_singleton, List.singleton_inj] at items
    have length := lengths record (List.mem_singleton_self record)
    have second := congrArg (fun body => body[1]?) body
    rw [← items] at length
    simp only [appListBody, AppRecord.toBytes, List.flatMap_singleton, List.singleton_append,
      List.getElem?_cons_succ, List.getElem?_cons_zero, Option.some.injEq] at second
    rw [← second] at length
    exact absurd length (by decide)
  · simp at items

end NanosWallet

end MhWallet
