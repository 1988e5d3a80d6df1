import MhWallet.Wallet.Signing
import MhWallet.Wallet.Status

/-!
Contract: what the commands copy into the payload of their `APDU`.

The payload has 255 bytes.  Its size is tested in `frame_io_apdu::exchange`,
after the copy, and the copy is as long as the argument makes it.

Owns: the bytes that each command copies, and the arguments for which the copy
stays inside.
-/

namespace MhWallet

open MhWallet.Bytes MhWallet.Effect MhWallet.Method MhWallet.Framing

namespace NanosWallet

variable {σ : Type} (tb : Toolbox) (hid : Hidapi σ) {wallet : NanosWallet} {world : World σ}
  {scene : Scene NanosWallet σ}

namespace Command

/-- The bytes that `memmove` is given. -/
def copied : Command → Bytes
  | .getAddress deriveIndex _ => tb.uint32Bytes deriveIndex
  | .signTx rawTx deriveIndex => unsignedHash tb rawTx deriveIndex
  | .runApp name => name
  | .getAppVersion | .getAppList => []

/-- The argument leaves room in the payload. -/
def Fits : Command → Prop
  | .signTx rawTx _ => rawTx.length ≤ 251
  | .runApp name => name.length ≤ 255
  | .getAddress _ _ | .getAppVersion | .getAppList => True

theorem fits_iff (command : Command) : command.Fits ↔ (command.copied tb).length ≤ 255 := by
  cases command with
  | getAddress deriveIndex silent => simp [Fits, copied]
  | signTx rawTx deriveIndex =>
      rw [Fits, copied, unsignedHash_eq]
      simp only [padTo, List.length_append, bigEndian_length, List.length_replicate]
      omega
  | getAppVersion => simp [Fits, copied]
  | getAppList => simp [Fits, copied]
  | runApp name => rfl

/-- The request is built by that copy. -/
theorem request_run_of_fits (scene : Scene NanosWallet σ) {command : Command}
    (fits : command.Fits) :
    ∃ apdu, (command.request tb).run scene = (.ok apdu, scene) ∧
      apdu.payload.toList.take (command.copied tb).length = command.copied tb := by
  have small := (command.fits_iff tb).mp fits
  have copies : ∀ content : Bytes, content.length ≤ 255 → ∀ apdu, ∃ reached : Apdu,
      (copyPayload content apdu).run scene = (.ok reached, scene) ∧
        reached.payload.toList.take content.length = content := by
    intro content short apdu
    obtain ⟨payload, ran, stored⟩ := copyPayload_run short apdu scene
    exact ⟨_, ran, by rw [stored, List.take_left]⟩
  cases command with
  | getAddress deriveIndex silent => exact copies _ small _
  | signTx rawTx deriveIndex => exact copies _ small _
  | getAppVersion => exact ⟨_, rfl, rfl⟩
  | getAppList => exact ⟨_, rfl, rfl⟩
  | runApp name => exact copies _ small _

theorem request_run_of_not_fits {command : Command} (long : ¬ command.Fits) :
    (command.request tb).run scene = (.error .undefined, scene) := by
  have large : 255 < (command.copied tb).length := by
    have := mt (command.fits_iff tb).mpr long
    omega
  cases command with
  | getAddress deriveIndex silent => exact absurd trivial long
  | signTx rawTx deriveIndex => exact copyPayload_run_of_long large _ scene
  | getAppVersion => exact absurd trivial long
  | getAppList => exact absurd trivial long
  | runApp name => exact copyPayload_run_of_long large _ scene

end Command

/-! ## The rest of a command is defined -/

private theorem defined_rule (apdu : Apdu) (resCode : Option UInt16) :
    LoopRule tb hid apdu resCode (fun wallet world => Ready wallet world)
      (fun outcome _ _ => outcome ≠ .error .undefined) where
  broken := by
    intro wallet world _ _
    simp
  ended := by
    intro wallet world handle outcome framer reached ready live ran _
    by_cases small : apdu.payloadSize ≤ 255
    · have received : (FrameIoApdu.exchange tb hid apdu resCode).run ⟨wallet.mFramer, world⟩ = _ :=
        FrameIoApdu.exchange_run tb hid small live ready.free ready.room (Nat.le_refl 65536)
      rw [ran, Prod.mk.injEq] at received
      rw [received.1]
      exact FrameIoApdu.receive_defined _ _ _
    · rw [FrameIoApdu.exchange_run_of_large tb hid (by omega), Prod.mk.injEq] at ran
      rw [← ran.1]
      simp
  retried := by
    intro wallet world handle expected given framer reached ready live ran
    obtain ⟨readyStopped, sameDevice, _⟩ := ready.afterAttempt tb hid live ran trivial
    let stopped : NanosWallet := { wallet with mFramer := framer }
    have liveStopped : stopped.mFramer.mIo.mDev = some handle := by
      rw [show stopped.mFramer.mIo = wallet.mFramer.mIo from sameDevice, live]
    exact ⟨_, _, reopen_run hid liveStopped readyStopped.free,
      ⟨readyStopped.free, readyStopped.room⟩, by simp⟩

/-- Between two calls, a call of `exchange` never has undefined behaviour. -/
theorem exchange_defined (settled : Settled [] scene) (retries : Nat) (apdu : Apdu)
    (resCode : Option UInt16) :
    ((exchange tb hid retries apdu resCode).run scene).1 ≠ .error .undefined := by
  have free : Mutex.wallet ∉ scene.world.held := World.free_of_idle settled.idle _
  have ready : Ready scene.self (scene.world.acquire .wallet) :=
    ⟨by simp [World.acquire, settled.idle, HidppDevice.mDevLock], settled.room⟩
  rcases (defined_rule tb hid apdu resCode).call free (fun _ => ready) retries with
    ⟨_, refused⟩ | ⟨outcome, next, after, _, defined, called⟩
  · have same : (exchange tb hid retries apdu resCode).run scene = _ := refused
    rw [same]
    simp
  · have same : (exchange tb hid retries apdu resCode).run scene = _ := called
    rw [same]
    exact defined

theorem command_defined (settled : Settled [] scene) (retries : Nat) (apdu : Apdu)
    (failure : String) :
    ((command tb hid retries apdu failure).run scene).1 ≠ .error .undefined := by
  have defined := exchange_defined tb hid settled retries apdu (some codeSuccess)
  rcases ran : (exchange tb hid retries apdu (some codeSuccess)).run scene with
    ⟨reason | ⟨response, status⟩, reached⟩
  · rw [ran] at defined
    rw [command, Action.run_bind_error ran]
    simpa using defined
  · rw [command, Action.run_bind_ok ran]
    rcases status with _ | status
    · simp
    · dsimp only
      split <;> simp

/-! ## The commands -/

/-- The command copies at most 255 bytes, to the indexes below 255, or throws
before it copies; and it has no undefined behaviour. -/
structure CopiesInside (retries : Nat) (command : Command) (scene : Scene NanosWallet σ) :
    Prop where
  inside : (∃ apdu, (command.request tb).run scene = (.ok apdu, scene) ∧
      (command.copied tb).length ≤ 255 ∧
      apdu.payload.toList.take (command.copied tb).length = command.copied tb) ∨
    ∃ exception, (command.request tb).run scene = (.error (.throws exception), scene)
  defined : ((command.response tb hid retries).run scene).1 ≠ .error .undefined

/-- The commands write inside the payload exactly if the argument fits. -/
theorem command_copies_inside_iff (reached : WalletReachable tb hid scene) (retries : Nat)
    (command : Command) : CopiesInside tb hid retries command scene ↔ command.Fits := by
  constructor
  · intro copies
    by_contra long
    apply copies.defined
    rw [Command.response_eq, Action.run_bind_error (Command.request_run_of_not_fits tb long)]
  · intro fits
    obtain ⟨apdu, requested, stored⟩ := Command.request_run_of_fits tb scene fits
    refine ⟨.inl ⟨apdu, requested, (command.fits_iff tb).mp fits, stored⟩, ?_⟩
    rw [Command.response_eq, Action.run_bind_ok requested]
    exact command_defined tb hid reached.settled retries apdu command.failure

theorem runApp_copies_inside :
    CopiesInside Toolbox.reference Script.device 0 (.runApp [0x4d]) (opened []) :=
  (command_copies_inside_iff Toolbox.reference Script.device (opened_reachable []) 0
    (.runApp [0x4d])).mpr (by decide : [(0x4d : UInt8)].length ≤ 255)

/-- A name of 256 bytes is copied past the end of the payload. -/
theorem runApp_copies_outside :
    ¬ ∀ (tb : Toolbox) (hid : Hidapi Script) (scene : Scene NanosWallet Script) (retries : Nat)
        (command : Command), WalletReachable tb hid scene →
      CopiesInside tb hid retries command scene := by
  intro copies
  have inside := copies Toolbox.reference Script.device (opened []) 0
    (.runApp (List.replicate 256 0x4d)) (opened_reachable [])
  apply inside.defined
  decide +kernel

end NanosWallet

end MhWallet
