import MhWallet.HidppDevice

/-!
Contract: `APDU`, `frame_io` and `frame_io_apdu`.

The counters `m_offset` and `rn` are natural numbers: they grow by at most 64
with each report, so their 64 bits last for more than 2^57 reports.  The
16-bit `m_seq`, the declared length and the narrowed sums keep their width.
-/

namespace MhWallet

open MhWallet.Effect MhWallet.Method

/-- `APDU`, with its fixed payload array. -/
structure Apdu where
  cla : UInt8
  ins : UInt8
  p1 : UInt8
  p2 : UInt8
  payloadSize : Nat
  payload : Vector UInt8 255
deriving DecidableEq, Repr

/-- `APDU::to_bytes`. -/
def Apdu.toBytes (tb : Toolbox) (apdu : Apdu) : Bytes :=
  let out := tb.bytesData (5 + apdu.payloadSize)
  let out := (tb.write out 0 [apdu.cla]).2
  let out := (tb.write out 1 [apdu.ins]).2
  let out := (tb.write out 2 [apdu.p1]).2
  let out := (tb.write out 3 [apdu.p2]).2
  let out := (tb.write out 4 [UInt8.ofNat apdu.payloadSize]).2
  if apdu.payloadSize > 0 then
    (tb.write out 5 (apdu.payload.toList.take (UInt8.ofNat apdu.payloadSize).toNat)).2
  else out

structure FrameIo where
  mIo : HidppDevice
  mSeq : UInt16
  mOffset : Nat
  mBuffer : Bytes
deriving DecidableEq, Repr

namespace FrameIo

variable {O σ : Type} (tb : Toolbox) (hid : Hidapi σ)

def io : Lens FrameIo HidppDevice where
  get framer := framer.mIo
  put dev framer := { framer with mIo := dev }
  get_put _ _ := rfl
  put_get _ := rfl
  put_put _ _ _ := rfl

/-- The state a constructor leaves around the device it was given. -/
def fresh (mIo : HidppDevice) : FrameIo where
  mIo := mIo
  mSeq := 0
  mOffset := 0
  mBuffer := tb.bytesData 64

/-- `frame_io(dev)`, for a reference of either kind: the device class has a copy
constructor only. -/
def construct (dev : HidppDevice) : Method O σ FrameIo := do
  return fresh tb (← HidppDevice.copyConstruct dev)

/-- The implicit assignment: member by member. -/
def assign (framer other : FrameIo) : FrameIo :=
  { other with mIo := framer.mIo.assign other.mIo }

def reset : Method FrameIo σ Unit :=
  updateSelf fun framer => { framer with mSeq := 0 }

/-- The part of `read` after the report of 64 bytes is in `m_buffer`. -/
def accept (out : Bytes) : Method FrameIo σ (Nat × Bytes) := do
  let framer ← self
  let channelId ← orOutOfRange (tb.toUInt16 framer.mBuffer 0)
  let commandTag ← orOutOfRange (tb.at? framer.mBuffer 2)
  let cseq ← orOutOfRange (tb.toUInt16 framer.mBuffer 3)
  if channelId ≠ 0x0101 then throw (.badChannelId channelId)
  else if commandTag ≠ 0x05 then throw (.badCommandTag commandTag)
  else if cseq ≠ framer.mSeq then throw (.wrongSeqno framer.mSeq cseq)
  else do
    let content ← orOutOfRange (tb.takeRangeFrom framer.mBuffer 5)
    let written :=
      if framer.mSeq = 0 then tb.write out 0 content
      else tb.write out (framer.mOffset - 5) content
    updateSelf fun framer =>
      { framer with mSeq := framer.mSeq + 1, mOffset := framer.mOffset + 64 }
    return written

/-- `read`: its result and the buffer after. -/
def read (out : Bytes) : Method FrameIo σ (Nat × Bytes) := do
  let framer ← self
  let (n, buffer) ← onMember io (HidppDevice.read tb hid framer.mBuffer 64)
  updateSelf fun framer => { framer with mBuffer := buffer }
  if n ≠ 64 then return (0, out)
  else accept tb out

/-- The loop of `write`; every round but none on an empty buffer moves at least
one byte, so the length of the buffer bounds the rounds. -/
def writeLoop : (rounds : Nat) → (buffer chunk : Bytes) → (cseq : UInt16) →
    Method FrameIo σ Unit
  | rounds, buffer, chunk, cseq =>
      if buffer = [] then return ()
      else
        match rounds with
        | 0 => .stop .unfinished
        | rounds + 1 => do
            let chunk := (tb.write chunk 3 (tb.uint16Bytes cseq)).2
            let (n, buffer, chunk) := tb.popFrontTo buffer 5 chunk
            let toUsb ← orOutOfRange (tb.takeRangeTo chunk (5 + n))
            let _ ← onMember io (HidppDevice.write hid toUsb)
            writeLoop rounds buffer chunk (cseq + 1)

def write (apdu : Apdu) : Method FrameIo σ Nat := do
  let apduData := apdu.toBytes tb
  let chunk := tb.bytesData 64
  let chunk := (tb.write chunk 0 (tb.uint16Bytes 0x0101)).2
  let chunk := (tb.write chunk 2 [0x05]).2
  let dataLen := UInt16.ofNat apduData.length
  let buffer := tb.bytesData (apduData.length + 2)
  let buffer := (tb.write buffer 0 (tb.uint16Bytes dataLen)).2
  let buffer := (tb.write buffer 2 apduData).2
  writeLoop tb hid buffer.length buffer chunk 0
  return apduData.length

end FrameIo

structure FrameIoApdu extends FrameIo where
  rn : Nat
deriving DecidableEq, Repr

namespace FrameIoApdu

variable {O σ : Type} (tb : Toolbox) (hid : Hidapi σ)

def fresh (mIo : HidppDevice) : FrameIoApdu :=
  { FrameIo.fresh tb mIo with rn := 0 }

@[simp] theorem fresh_mIo (mIo : HidppDevice) : (fresh tb mIo).mIo = mIo := rfl

@[simp] theorem fresh_mBuffer_length (mIo : HidppDevice) :
    (fresh tb mIo).mBuffer.length = 64 := by
  simp [fresh, FrameIo.fresh]

/-- `frame_io_apdu(dev)`: the base class, and `rn(0)`. -/
def construct (dev : HidppDevice) : Method O σ FrameIoApdu := do
  return { (← FrameIo.construct tb dev) with rn := 0 }

/-- The implicit assignment: the base class, and `rn`. -/
def assign (framer other : FrameIoApdu) : FrameIoApdu :=
  { framer.toFrameIo.assign other.toFrameIo with rn := other.rn }

def frameIo : Lens FrameIoApdu FrameIo where
  get framer := framer.toFrameIo
  put base framer := { framer with toFrameIo := base }
  get_put _ _ := rfl
  put_get _ := rfl
  put_put _ _ _ := rfl

/-- `rn += read(buffer) + 5`. -/
def readMore (buffer : Bytes) : Method FrameIoApdu σ Bytes := do
  let (n, buffer) ← onMember frameIo (FrameIo.read tb hid buffer)
  updateSelf fun framer => { framer with rn := framer.rn + (n + 5) }
  return buffer

/-- `while (rn < respLen)`; every round adds at least 5 to `rn`, so `respLen`
bounds the rounds. -/
def readRest (respLen : UInt16) : (rounds : Nat) → (buffer : Bytes) →
    Method FrameIoApdu σ Bytes
  | rounds, buffer => do
      if (← self).rn < respLen.toNat then
        match rounds with
        | 0 => .stop .unfinished
        | rounds + 1 => do
            let buffer ← readMore tb hid buffer
            readRest respLen rounds buffer
      else return buffer

def cleanup : Method FrameIoApdu σ Unit :=
  updateSelf fun framer => { framer with mSeq := 0, mOffset := 0, rn := 0 }

/-- The part of `exchange` after the last report: the response and the status
that are returned.  A `statusCode` of `none` is the null pointer. -/
def conclude (respLen : UInt16) (buffer : Bytes) (statusCode : Option UInt16) :
    Method FrameIoApdu σ (Bytes × Option UInt16) := do
  let statusCode := statusCode.map fun _ => codeNoStatusResult
  if respLen ≥ 2 then do
    let resp ← orOutOfRange (tb.takeRange buffer 2 (respLen.toNat - 2))
    let respCode ← orOutOfRange (tb.takeRange buffer (respLen.toNat - 2) respLen.toNat)
    let statusCode ←
      match statusCode with
      | some _ => some <$> orOutOfRange (tb.toUInt16 respCode 0)
      | none => pure none
    cleanup
    return (resp, statusCode)
  else do
    cleanup
    return ([], statusCode)

/-- `exchange`: the response, and what `*statusCode` is afterwards. -/
def exchange (apdu : Apdu) (statusCode : Option UInt16) :
    Method FrameIoApdu σ (Bytes × Option UInt16) := do
  if apdu.payloadSize > 0xFF then throw .payloadTooLarge
  else do
    onMember frameIo FrameIo.reset
    let _ ← onMember frameIo (FrameIo.write tb hid apdu)
    let buffer ← readMore tb hid (tb.bytesData 255)
    let declared ← orOutOfRange (tb.toUInt16 buffer 0)
    let respLen := declared + 2
    let buffer ← readRest tb hid respLen respLen.toNat buffer
    conclude tb respLen buffer statusCode

end FrameIoApdu

end MhWallet
