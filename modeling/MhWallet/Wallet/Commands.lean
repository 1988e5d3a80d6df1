import MhWallet.Effect.Within
import MhWallet.NanosWallet

/-!
Contract: every judgement on actions that composes holds of the commands of the
wallet, if it holds of the exchange and of the enumeration.

Does not own: any concrete judgement.
-/

namespace MhWallet

open MhWallet.Effect MhWallet.Method

namespace NanosWallet

variable {σ : Type} {tb : Toolbox} {hid : Hidapi σ}
  {judgement : {α : Type} → Method NanosWallet σ α → Prop}
  (composes : Action.Composes judgement)

include composes

theorem copyPayload_composes (content : Bytes) (apdu : Apdu) :
    judgement (copyPayload content apdu : Method NanosWallet σ Apdu) := by
  unfold copyPayload
  split
  · exact composes.pure _
  · exact composes.stop _

theorem parseAppItem_composes (response : Bytes) (offset : Nat) :
    judgement
      (parseAppItem tb response offset : Method NanosWallet σ (AppItem × Nat)) :=
  composes.bind (composes.ofOption _ _) fun _ => composes.bind (composes.ofOption _ _) fun _ =>
    composes.bind (composes.ofOption _ _) fun _ => composes.bind (composes.ofOption _ _) fun _ =>
      composes.bind (composes.ofOption _ _) fun _ => composes.pure _

theorem parseAppList_composes (response : Bytes) (rounds offset : Nat) (out : List AppItem) :
    judgement
      (parseAppList tb response rounds offset out : Method NanosWallet σ (List AppItem)) := by
  induction rounds generalizing offset out with
  | zero =>
      unfold parseAppList
      split
      · exact composes.stop _
      · exact composes.pure _
  | succ rounds inductionHypothesis =>
      unfold parseAppList
      split
      · exact composes.bind (parseAppItem_composes composes response offset) fun parsed =>
          inductionHypothesis parsed.2 _
      · exact composes.pure _

section Exchange

variable (exchanged : ∀ retries apdu resCode,
  judgement (exchange tb hid retries apdu resCode))

include exchanged

theorem command_composes (retries : Nat) (apdu : Apdu) (failure : String) :
    judgement (command tb hid retries apdu failure) := by
  refine composes.bind (exchanged retries apdu (some codeSuccess)) fun answer => ?_
  rcases answer with ⟨response, _ | status⟩
  · exact composes.pure _
  · dsimp only
    split
    · exact composes.stop _
    · exact composes.pure _

theorem getAddress_composes (retries : Nat) (deriveIndex : UInt32) (silent : Bool) :
    judgement (getAddress tb hid retries deriveIndex silent) :=
  composes.bind (composes.bind (copyPayload_composes composes _ _) fun data =>
    command_composes composes exchanged retries data _) fun _ => composes.ofOption _ _

theorem signTx_composes (retries : Nat) (rawTx : Bytes) (deriveIndex : UInt32) :
    judgement (signTx tb hid retries rawTx deriveIndex) :=
  composes.bind (composes.bind (copyPayload_composes composes _ _) fun data =>
    command_composes composes exchanged retries data _) fun _ =>
      composes.bind (composes.ofOption _ _) fun _ => composes.bind (composes.ofOption _ _) fun _ =>
        composes.bind (composes.ofOption _ _) fun _ => composes.pure _

theorem getAppVersion_composes (retries : Nat) :
    judgement (getAppVersion tb hid retries) :=
  composes.bind (command_composes composes exchanged retries _ _) fun _ =>
    composes.bind (composes.ofOption _ _) fun _ => composes.bind (composes.ofOption _ _) fun _ =>
      composes.bind (composes.ofOption _ _) fun _ => composes.pure _

theorem getAppList_composes (retries : Nat) :
    judgement (getAppList tb hid retries) := by
  refine composes.bind (command_composes composes exchanged retries _ _) fun response => ?_
  split
  · exact composes.pure _
  · exact parseAppList_composes composes response _ _ _

section Enumeration

variable (enumerated : ∀ vendorId productId, judgement
  (enumerateDevices hid vendorId productId : Method NanosWallet σ _))

include enumerated

omit exchanged in
theorem pollForApp_composes (tries : Nat) (found : Bool) (pid : UInt16) :
    judgement (pollForApp hid tries found pid) := by
  induction tries generalizing found pid with
  | zero => exact composes.pure _
  | succ tries inductionHypothesis =>
      unfold pollForApp
      refine composes.bind (enumerated _ _) fun devices => ?_
      dsimp only
      split
      · exact composes.pure _
      · exact inductionHypothesis _ _

theorem runApp_composes (retries : Nat) (name : Bytes) :
    judgement (runApp tb hid retries name) := by
  apply composes.bind
  · apply composes.bind (copyPayload_composes composes _ _)
    intro data
    exact command_composes composes exchanged retries data _
  · intro response
    exact pollForApp_composes composes enumerated _ _ _

end Enumeration

end Exchange

end NanosWallet

end MhWallet
