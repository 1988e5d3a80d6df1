import MhWallet.FrameIo

/-!
Contract: the Ledger HID framing, as a specification of what is on the wire.

A message is cut into chunks of 59 bytes; chunk `i` travels in the report
`01 01 05 ++ BE16(i) ++ chunk`.  Input reports are padded with zeros to 64
bytes, output reports are not.

Owns: the framing of a response and of a request, and a device that answers
each kind of call from a script.

Does not own: what the code does with the reports.
-/

namespace MhWallet.Framing

open MhWallet.Bytes

def reportHeader (index : Nat) : Bytes := [0x01, 0x01, 0x05] ++ bigEndian 2 index

@[simp] theorem reportHeader_length (index : Nat) : (reportHeader index).length = 5 := by
  simp [reportHeader]

/-- Extend with zeros up to a length. -/
def padTo (length : Nat) (data : Bytes) : Bytes :=
  data ++ List.replicate (length - data.length) 0

theorem padTo_length {length : Nat} {data : Bytes} (fits : data.length ≤ length) :
    (padTo length data).length = length := by
  simp only [padTo, List.length_append, List.length_replicate]
  omega

theorem byteAt_padTo (length : Nat) (data : Bytes) (position : Nat) :
    byteAt (padTo length data) position = byteAt data position := by
  rw [padTo, byteAt_append]
  split
  · rfl
  · rw [byteAt_replicate_zero, byteAt_of_le (by omega)]

/-- The `index`-th input report of a message. -/
def inputReport (message : Bytes) (index : Nat) : Bytes :=
  reportHeader index ++ padTo 59 (chunk 59 message index)

/-- The input reports of a message. -/
def inputReports (message : Bytes) : List Bytes :=
  (List.range (chunkCount 59 message.length)).map (inputReport message)

theorem inputReport_length (message : Bytes) (index : Nat) :
    (inputReport message index).length = 64 := by
  rw [inputReport, List.length_append, reportHeader_length,
    padTo_length (by rw [chunk_length]; omega)]

/-- The message that carries a response: its length, its data, its status. -/
def responseMessage (data : Bytes) (status : UInt16) : Bytes :=
  bigEndian 2 (data.length + 2) ++ data ++ bigEndian 2 status.toNat

@[simp] theorem responseMessage_length (data : Bytes) (status : UInt16) :
    (responseMessage data status).length = data.length + 4 := by
  simp [responseMessage]
  omega

theorem responseMessage_take (data : Bytes) (status : UInt16) :
    (responseMessage data status).take 2 = bigEndian 2 (data.length + 2) := by
  rw [responseMessage, List.append_assoc, List.take_left' (bigEndian_length 2 _)]

/-- The message that carries a request. -/
def requestMessage (apduData : Bytes) : Bytes :=
  bigEndian 2 apduData.length ++ apduData

/-- The `index`-th output report of a message. -/
def outputReport (message : Bytes) (index : Nat) : Bytes :=
  reportHeader index ++ chunk 59 message index

/-- The output reports of a message. -/
def outputReports (message : Bytes) : List Bytes :=
  (List.range (chunkCount 59 message.length)).map (outputReport message)

end MhWallet.Framing

namespace MhWallet

/-- A read that delivers a report and no error. -/
def ReadResult.ofReport (report : Bytes) : ReadResult :=
  { res := 64, data := report, error := none }

/-- The answers of a device, in order, for each kind of call.  A read beyond
the script waits; an enumeration beyond it finds nothing; an open or a write
beyond it fails. -/
structure Script where
  attached : List (List HidDeviceInfo)
  opens : List Bool
  writes : List Int32
  reads : List ReadResult
deriving DecidableEq, Repr

namespace Script

def openNext (script : Script) : Bool × Script :=
  (script.opens.headD false, { script with opens := script.opens.tail })

/-- The device that plays a script. -/
def device : Hidapi Script where
  enumerate script :=
    (script.attached.headD [], { script with attached := script.attached.tail })
  openDevice _ _ script := script.openNext
  openPath _ script := script.openNext
  close _ script := script
  write _ _ script :=
    (script.writes.headD (-1), { script with writes := script.writes.tail })
  read _ _ script := (script.reads.head?, { script with reads := script.reads.tail })
  error _ _ := none
  errno _ := (0, "")

/-- A script of reads alone. -/
def ofReads (reads : List ReadResult) : Script :=
  { attached := [], opens := [], writes := [], reads }

/-- A world with one open device, which plays the script. -/
def world (script : Script) : World Script :=
  { env := script, objects := 1, issued := 1, held := [], log := [] }

end Script

/-- The device object of that world. -/
def HidppDevice.connected : HidppDevice :=
  { object := 0, mDev := some 0, mVendorId := ledgerVid, mProductId := nanosPid,
    mPath := none }

/-! ## What a device delivers -/

/-- The next calls of `hid_read` return these results. -/
def Hidapi.Delivers {σ : Type} (hid : Hidapi σ) (handle : Handle) :
    List ReadResult → σ → Prop
  | [], _ => True
  | result :: results, env =>
      (hid.read handle 64 env).1 = some result ∧
        Delivers hid handle results (hid.read handle 64 env).2

theorem Script.device_delivers (handle : Handle) (results : List ReadResult) (script : Script)
    (planned : script.reads = results) :
    Script.device.Delivers handle results script := by
  induction results generalizing script with
  | nil => trivial
  | cons result results inductionHypothesis =>
      refine ⟨?_, inductionHypothesis _ ?_⟩
      · simp [device, planned]
      · simp [device, planned]

end MhWallet
