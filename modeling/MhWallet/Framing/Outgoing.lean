import MhWallet.Framing.Exchange
import MhWallet.NanosWallet

/-!
Contract: the reports of a request carry the request, and whether `hid_write`
took them is not looked at.

Owns: the shape of the output reports, a decoder of them, and the condition
under which a request that was not sent is reported.

Does not own: what the device answers.
-/

namespace MhWallet

open MhWallet.Bytes MhWallet.Effect MhWallet.Method MhWallet.Framing

namespace Framing

/-! ## The output reports of a message -/

theorem outputReport_take (message : Bytes) (index : Nat) :
    (outputReport message index).take 5 = reportHeader index :=
  List.take_left' (reportHeader_length index)

theorem outputReport_drop (message : Bytes) (index : Nat) :
    (outputReport message index).drop 5 = chunk 59 message index :=
  List.drop_left' (reportHeader_length index)

theorem outputReport_length (message : Bytes) (index : Nat) :
    (outputReport message index).length = 5 + min 59 (message.length - 59 * index) := by
  rw [outputReport, List.length_append, reportHeader_length, chunk_length]

theorem outputReports_length (message : Bytes) :
    (outputReports message).length = chunkCount 59 message.length := by
  rw [outputReports, List.length_map, List.length_range]

/-- The report at an index is the one of that number. -/
theorem outputReports_getElem? {message report : Bytes} {index : Nat}
    (present : (outputReports message)[index]? = some report) :
    report = outputReport message index ∧ 59 * index < message.length := by
  rw [outputReports, List.getElem?_map, Option.map_eq_some_iff] at present
  obtain ⟨found, within, rfl⟩ := present
  obtain ⟨bound, same⟩ := List.getElem?_eq_some_iff.mp within
  rw [List.getElem_range] at same
  rw [List.length_range, chunkCount] at bound
  subst same
  exact ⟨rfl, by omega⟩

/-- The contents of the reports are the message. -/
theorem outputReports_content (message : Bytes) :
    (outputReports message).flatMap (List.drop 5) = message := by
  calc (outputReports message).flatMap (List.drop 5)
      = (chunks 59 message).flatten := by
        rw [outputReports, List.flatMap_map, chunks, List.flatten_eq_flatMap, List.flatMap_map]
        simp only [outputReport_drop, id]
    _ = message := chunks_flatten (by decide) message

end Framing

/-! ## What a request carries -/

/-- The header bytes of an `APDU` and the used part of its payload. -/
structure Carried where
  cla : UInt8
  ins : UInt8
  p1 : UInt8
  p2 : UInt8
  payload : Bytes
deriving DecidableEq, Repr

def Apdu.carried (apdu : Apdu) : Carried :=
  { cla := apdu.cla, ins := apdu.ins, p1 := apdu.p1, p2 := apdu.p2,
    payload := apdu.payload.toList.take apdu.payloadSize }

/-- Take the reports apart again: the contents, without the two bytes of the
length, are the header, the payload size and the payload. -/
def decodeRequest (reports : List Bytes) : Option Carried :=
  match (reports.flatMap (List.drop 5)).drop 2 with
  | cla :: ins :: p1 :: p2 :: size :: rest =>
      some { cla, ins, p1, p2, payload := rest.take size.toNat }
  | _ => none

theorem decodeRequest_requestReports {apdu : Apdu} (small : apdu.payloadSize ≤ 255) :
    decodeRequest (requestReports apdu) = some apdu.carried := by
  have body : ((requestReports apdu).flatMap (List.drop 5)).drop 2 = apdu.encoded := by
    rw [requestReports, outputReports_content, requestMessage]
    exact List.drop_left' (bigEndian_length 2 _)
  have size : (UInt8.ofNat apdu.payloadSize).toNat = apdu.payloadSize := by
    rw [UInt8.toNat_ofNat']
    omega
  rw [decodeRequest, body, Apdu.encoded]
  simp only [List.cons_append, List.nil_append, size, List.take_take, Nat.min_self]
  rfl

/-- Requests are framed alike exactly if they carry the same. -/
theorem requestReports_eq_iff {left right : Apdu} (leftSmall : left.payloadSize ≤ 255)
    (rightSmall : right.payloadSize ≤ 255) :
    requestReports left = requestReports right ↔ left.carried = right.carried := by
  constructor
  · intro same
    have decoded := decodeRequest_requestReports leftSmall
    rw [same, decodeRequest_requestReports rightSmall] at decoded
    exact (Option.some.inj decoded).symm
  · intro same
    have sizes : ∀ {apdu : Apdu}, apdu.payloadSize ≤ 255 →
        apdu.carried.payload.length = apdu.payloadSize := by
      intro apdu small
      rw [Apdu.carried, List.length_take, Vector.length_toList]
      exact Nat.min_eq_left small
    have encoded : ∀ {apdu : Apdu}, apdu.payloadSize ≤ 255 → apdu.encoded =
        [apdu.carried.cla, apdu.carried.ins, apdu.carried.p1, apdu.carried.p2,
          UInt8.ofNat apdu.carried.payload.length] ++ apdu.carried.payload := by
      intro apdu small
      rw [sizes small]
      rfl
    rw [requestReports, requestReports, encoded leftSmall, encoded rightSmall, same]

namespace FrameIo

variable {σ : Type} (tb : Toolbox) (hid : Hidapi σ) {framer : FrameIo} {handle : Handle}
  {world : World σ} {apdu : Apdu}

/-- The reports that `write` passes to `hid_write`. -/
theorem write_writes (small : apdu.payloadSize ≤ 255) (live : framer.mIo.mDev = some handle)
    (free : framer.mIo.mDevLock ∉ world.held) :
    ((write tb hid apdu).run ⟨framer, world⟩).2.world.writesSince world = requestReports apdu := by
  rw [write_run tb hid small live free, World.afterWrites_eq, World.writesSince, World.extend,
    List.drop_left]
  exact writtenReports_writes ..

/-- The reports of a request are numbered without gaps, are full but for the
last, and carry the length, the header and the used payload; they can be taken
apart, and those of another request are the same only if it carries the same. -/
theorem write_loses_nothing (small : apdu.payloadSize ≤ 255)
    (live : framer.mIo.mDev = some handle) (free : framer.mIo.mDevLock ∉ world.held) :
    let reports := ((write tb hid apdu).run ⟨framer, world⟩).2.world.writesSince world
    (∀ index report, reports[index]? = some report →
      report.take 5 = [0x01, 0x01, 0x05] ++ bigEndian 2 index ∧
      (index + 1 < reports.length → report.length = 64) ∧
      6 ≤ report.length ∧ report.length ≤ 64) ∧
    reports.length = (apdu.payloadSize + 7 + 58) / 59 ∧
    reports.flatMap (List.drop 5) = bigEndian 2 (apdu.payloadSize + 5) ++
      [apdu.cla, apdu.ins, apdu.p1, apdu.p2, UInt8.ofNat apdu.payloadSize] ++
      apdu.payload.toList.take apdu.payloadSize ∧
    decodeRequest reports = some apdu.carried ∧
    ∀ (τ : Type) (hid' : Hidapi τ) (framer' : FrameIo) (handle' : Handle) (world' : World τ)
      (apdu' : Apdu), apdu'.payloadSize ≤ 255 → framer'.mIo.mDev = some handle' →
      framer'.mIo.mDevLock ∉ world'.held →
      (((write tb hid' apdu').run ⟨framer', world'⟩).2.world.writesSince world' = reports ↔
        apdu'.carried = apdu.carried) := by
  intro reports
  have written : reports = requestReports apdu := write_writes tb hid small live free
  have length : (requestMessage apdu.encoded).length = apdu.payloadSize + 7 := by
    rw [requestMessage, List.length_append, bigEndian_length, Apdu.encoded_length small]
    omega
  have count : reports.length = (apdu.payloadSize + 7 + 58) / 59 := by
    rw [written, requestReports, outputReports_length, chunkCount, length]
    rfl
  refine ⟨?_, count, ?_, ?_, ?_⟩
  · intro index report present
    rw [written] at present
    obtain ⟨rfl, inside⟩ := outputReports_getElem? present
    rw [outputReport_take, outputReport_length, length, count]
    rw [length] at inside
    exact ⟨rfl, by omega, by omega, by omega⟩
  · rw [written, requestReports, outputReports_content, requestMessage,
      Apdu.encoded_length small, Nat.add_comm 5, Apdu.encoded, List.append_assoc]
  · rw [written]
    exact decodeRequest_requestReports small
  · intro τ hid' framer' handle' world' apdu' small' live' free'
    rw [write_writes tb hid' small' live' free', written]
    exact requestReports_eq_iff small' small

theorem write_loses_nothing_of_version :
    decodeRequest (((write Toolbox.reference Script.device NanosWallet.getAppVersionApdu).run
        ⟨fresh Toolbox.reference .connected, (Script.ofReads []).world⟩).2.world.writesSince
          (Script.ofReads []).world) = some NanosWallet.getAppVersionApdu.carried :=
  (write_loses_nothing Toolbox.reference Script.device (by decide) rfl
    List.not_mem_nil).2.2.2.1

end FrameIo

/-! ## Writes that fail -/

/-- What `hid_write` returns for these reports, one after the other. -/
def Hidapi.written {σ : Type} (hid : Hidapi σ) (handle : Handle) : List Bytes → σ → List Int32
  | [], _ => []
  | report :: reports, env =>
      (hid.write handle report env).1 :: written hid handle reports (hid.write handle report env).2

namespace FrameIoApdu

variable {σ : Type} (tb : Toolbox) (hid : Hidapi σ)

/-- A request of which `hid_write` refused a report is reported: `write` does
not return the size of the request, and the exchange throws before it reads. -/
def ReportsLoss (apdu : Apdu) (statusCode : Option UInt16) (framer : FrameIoApdu)
    (handle : Handle) (world : World σ) : Prop :=
  -1 ∈ hid.written handle (requestReports apdu) world.env →
    ((FrameIo.write tb hid apdu).run ⟨framer.toFrameIo, world⟩).1 ≠
        .ok (apdu.toBytes tb).length ∧
      (∃ exception, ((exchange tb hid apdu statusCode).run ⟨framer, world⟩).1 =
        .error (.throws exception)) ∧
      ((exchange tb hid apdu statusCode).run ⟨framer, world⟩).2.world.readsSince world = []

variable {framer : FrameIoApdu} {handle : Handle} {world : World σ} {apdu : Apdu}

/-- The results of `hid_write` are dropped: a loss is reported exactly if there
is none. -/
theorem loss_reported_iff (small : apdu.payloadSize ≤ 255)
    (live : framer.mIo.mDev = some handle) (free : framer.mIo.mDevLock ∉ world.held)
    (statusCode : Option UInt16) :
    ReportsLoss tb hid apdu statusCode framer handle world ↔
      -1 ∉ hid.written handle (requestReports apdu) world.env := by
  constructor
  · intro reports lost
    apply (reports lost).1
    have liveBase : framer.toFrameIo.mIo.mDev = some handle := live
    rw [FrameIo.write_run tb hid small liveBase free, Apdu.toBytes_eq tb small]
  · intro sent lost
    exact absurd lost sent

theorem loss_reported_of_sent :
    ReportsLoss Toolbox.reference Script.device NanosWallet.getAppVersionApdu none
      (fresh Toolbox.reference .connected) 0
      { Script.ofReads [] with writes := [64] : Script }.world :=
  (loss_reported_iff Toolbox.reference Script.device (by decide) rfl List.not_mem_nil none).mpr
    (by decide)

/-- The only report of a request is refused, and what the device has queued is
returned as the response. -/
theorem loss_goes_unreported :
    ¬ ∀ (tb : Toolbox) (hid : Hidapi Script) (apdu : Apdu) (statusCode : Option UInt16)
        (framer : FrameIoApdu) (handle : Handle) (world : World Script),
      apdu.payloadSize ≤ 255 → framer.mIo.mDev = some handle →
      framer.mIo.mDevLock ∉ world.held →
      ReportsLoss tb hid apdu statusCode framer handle world := by
  intro reports
  let queued : Script := .ofReads [.ofReport (inputReport (responseMessage [1, 2, 3] 0x9000) 0)]
  obtain ⟨_, ⟨exception, thrown⟩, _⟩ := reports Toolbox.reference Script.device
    NanosWallet.getAppVersionApdu (some 0) (fresh Toolbox.reference .connected) 0 queued.world
    (by decide) rfl List.not_mem_nil (by decide +kernel)
  have returned : ((exchange Toolbox.reference Script.device NanosWallet.getAppVersionApdu
      (some 0)).run ⟨fresh Toolbox.reference .connected, queued.world⟩).1 =
        .ok ([1, 2, 3], some 0x9000) := by
    decide +kernel
  rw [returned] at thrown
  simp at thrown

end FrameIoApdu

end MhWallet
