import Mathlib.Tactic.Common

/-!
Contract: the constants of `mhwallet_core.h`, the exceptions the library
throws with their texts, and the ways in which a call can fail to return.
-/

namespace MhWallet

def deviceClass : UInt8 := 0xe0

def ledgerVid : UInt16 := 0x2c97
def nanosPidRoot : UInt16 := 0x1011
def nanosPid : UInt16 := 0x0001
def nanosPid16App : UInt16 := 0x1005

def codeSuccess : UInt16 := 0x9000
def codeUserRejected : UInt16 := 0x6985
def codeInvalidParam : UInt16 := 0x6b01
def codeNoStatusResult : UInt16 := 0x9001

def cmdGetVersion : UInt8 := 0x01
def cmdGetAddress : UInt8 := 0x02
def cmdSignTx : UInt8 := 0x04
def cmdGetAppList : UInt8 := 0xDE
def cmdRunApp : UInt8 := 0xD8

/-- `minter::utils::ledger_status_to_string`. -/
def ledgerStatusToString (status : UInt16) : String :=
  if status = codeSuccess then "success"
  else if status = codeNoStatusResult then "no_status_result"
  else if status = codeInvalidParam then "invalid_parameter"
  else if status = codeUserRejected then "user_rejected"
  else "unknown_error"

/-- The exceptions that leave a call of the library. -/
inductive Exception where
  | payloadTooLarge
  | badChannelId (channelId : UInt16)
  | badCommandTag (commandTag : UInt8)
  | wrongSeqno (expected given : UInt16)
  | outOfRange
  | uninitializedDevice
  | nullOutput
  | exchangeError (message : String) (code : UInt16)
deriving DecidableEq, Repr

/-- The format `2X`: upper-case hexadecimal, padded with blanks to two places. -/
def formatHex (value : Nat) : String :=
  let digits := (Nat.toDigits 16 value).map Char.toUpper
  String.ofList (List.replicate (2 - digits.length) ' ' ++ digits)

/-- The text of an exception.  That of `std::out_of_range` belongs to the
container that threw it. -/
def Exception.what : Exception → String
  | .payloadTooLarge => "payload size can't be more than 255"
  | .badChannelId channelId => "bad channel ID 0x" ++ formatHex channelId.toNat
  | .badCommandTag commandTag => "bad command tag 0x" ++ formatHex commandTag.toNat
  | .wrongSeqno expected given =>
      "bad sequence number " ++ toString given ++ " (expected " ++
        toString expected ++ ")"
  | .outOfRange => "out of range"
  | .uninitializedDevice => "trying to send data to uninitialized device"
  | .nullOutput => "Output variable is null"
  | .exchangeError message _ => message

/-- The mutexes: the wallet's `m_devLock`, and the `m_dev_lock` of each
`hidpp_device` object. -/
inductive Mutex where
  | wallet
  | device (object : Nat)
deriving DecidableEq, Repr

/-- Why a call did not return normally. -/
inductive Stop where
  /-- It threw. -/
  | throws (exception : Exception)
  /-- `hid_read` waits for a report that never comes. -/
  | waits
  /-- It locks a mutex that it already holds. -/
  | deadlocks (mutex : Mutex)
  /-- Its behaviour is undefined. -/
  | undefined
  /-- It is still in a loop after the rounds it was given. -/
  | unfinished
deriving DecidableEq, Repr

/-- A call that stopped by an exception has unwound; every other stop leaves it
where it is. -/
def Stop.Unwinds : Stop → Prop
  | .throws _ => True
  | _ => False

instance : DecidablePred Stop.Unwinds := fun reason => by
  cases reason <;> unfold Stop.Unwinds <;> infer_instance

/-- A call that has come back to its caller, by a return or by an exception. -/
def Ended {α : Type} : Except Stop α → Prop
  | .ok _ => True
  | .error reason => reason.Unwinds

instance {α : Type} : DecidablePred (Ended : Except Stop α → Prop) := fun outcome => by
  cases outcome <;> unfold Ended <;> infer_instance

end MhWallet
