import MhWallet.NanosWallet

/-!
Contract: the public operations of `nanos_wallet` and the scenes that a wallet
can be in between two of them.

Owns: the operations as one type, and reachability, with a condition on the
steps of a run.
-/

namespace MhWallet

open MhWallet.Effect MhWallet.Method

/-- A call of a public member function, with its arguments. -/
inductive WalletOp where
  | init (productId : UInt16)
  | initExt (productId : UInt16)
  | initRoot
  | initExtRoot
  | reopenWithApp (productId : UInt16)
  | close
  | exchange (retries : Nat) (apdu : Apdu) (resCode : Option UInt16)
  | getAddress (retries : Nat) (deriveIndex : UInt32) (silent : Bool)
  | signTx (retries : Nat) (rawTx : Bytes) (deriveIndex : UInt32)
  | getAppVersion (retries : Nat)
  | getAppList (retries : Nat)
  | runApp (retries : Nat) (name : Bytes)
  | getOpenedAppPid

namespace WalletOp

variable {σ : Type} (tb : Toolbox) (hid : Hidapi σ)

/-- The call, without its result. -/
def call : WalletOp → Method NanosWallet σ Unit
  | .init productId => (fun _ => ()) <$> NanosWallet.init tb hid productId
  | .initExt productId => (fun _ => ()) <$> NanosWallet.initExt tb hid productId
  | .initRoot => (fun _ => ()) <$> NanosWallet.initRoot tb hid
  | .initExtRoot => (fun _ => ()) <$> NanosWallet.initExtRoot tb hid
  | .reopenWithApp productId => (fun _ => ()) <$> NanosWallet.reopenWithApp tb hid productId
  | .close => NanosWallet.close hid
  | .exchange retries apdu resCode =>
      (fun _ => ()) <$> NanosWallet.exchange tb hid retries apdu resCode
  | .getAddress retries deriveIndex silent =>
      (fun _ => ()) <$> NanosWallet.getAddress tb hid retries deriveIndex silent
  | .signTx retries rawTx deriveIndex =>
      (fun _ => ()) <$> NanosWallet.signTx tb hid retries rawTx deriveIndex
  | .getAppVersion retries => (fun _ => ()) <$> NanosWallet.getAppVersion tb hid retries
  | .getAppList retries => (fun _ => ()) <$> NanosWallet.getAppList tb hid retries
  | .runApp retries name => (fun _ => ()) <$> NanosWallet.runApp tb hid retries name
  | .getOpenedAppPid => (fun _ => ()) <$> NanosWallet.getOpenedAppPid hid

end WalletOp

/-- The scenes between two calls on one wallet, where every step met
`Allowed`. -/
inductive WalletRun {σ : Type} (tb : Toolbox) (hid : Hidapi σ)
    (Allowed : Scene NanosWallet σ → WalletOp → Prop) : Scene NanosWallet σ → Prop
  | construct {env : σ} {wallet : NanosWallet} {world : World σ}
      (ran : (NanosWallet.construct tb hid).run ⟨(), .initial env⟩ =
        (.ok wallet, ⟨(), world⟩)) : WalletRun tb hid Allowed ⟨wallet, world⟩
  | step {scene : Scene NanosWallet σ} (earlier : WalletRun tb hid Allowed scene)
      (op : WalletOp) (allowed : Allowed scene op)
      (ended : Ended ((op.call tb hid).run scene).1) :
      WalletRun tb hid Allowed ((op.call tb hid).run scene).2

/-- Every scene between two calls. -/
abbrev WalletReachable {σ : Type} (tb : Toolbox) (hid : Hidapi σ) :
    Scene NanosWallet σ → Prop :=
  WalletRun tb hid fun _ _ => True

end MhWallet
