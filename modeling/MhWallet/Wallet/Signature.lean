import MhWallet.Wallet.Signing
import MhWallet.Wallet.Status

/-!
Contract: which responses `sign_tx` takes for a signature.

`r` and `s` are cut from the front of the response and `v` from its back, so the
three tile a response of 65 bytes; a shorter one that still has 64 bytes, and
every longer one, is cut too.

Owns: the signature that a response gives, and the output of the command line
for it.
-/

namespace MhWallet

open MhWallet.Bytes MhWallet.Effect MhWallet.Method MhWallet.Framing

/-- The 65 bytes that `action_sign_tx` prints. -/
def actionSignTxOutput (tb : Toolbox) (sign : Signature) : Bytes :=
  let outInline := tb.bytesData 65
  let outInline := (tb.write outInline 0 sign.r).2
  let outInline := (tb.write outInline 32 sign.s).2
  (tb.write outInline 64 sign.v).2

/-- The output is the three parts one after another. -/
theorem actionSignTxOutput_eq (tb : Toolbox) (sign : Signature) (r : sign.r.length = 32)
    (s : sign.s.length = 32) (v : sign.v.length = 1) :
    actionSignTxOutput tb sign = sign.r ++ sign.s ++ sign.v := by
  have first : overwrite (List.replicate 65 0) 0 sign.r = sign.r ++ List.replicate 33 0 := by
    simp [overwrite, r]
  have second : overwrite (sign.r ++ List.replicate 33 0) 32 sign.s =
      sign.r ++ sign.s ++ List.replicate 1 0 := by
    simp [overwrite, List.drop_append, r, s]
  have third : overwrite (sign.r ++ sign.s ++ List.replicate 1 0) 64 sign.v =
      sign.r ++ sign.s ++ sign.v := by
    have front : (sign.r ++ sign.s).length = 64 := by
      rw [List.length_append, r, s]
    rw [overwrite, List.take_left' front, List.length_append, front, v,
      List.drop_eq_nil_of_le (by simp [r, s])]
    simp
  simp only [actionSignTxOutput, Toolbox.bytesData_eq, Toolbox.write_eq]
  rw [first, second, third]

namespace NanosWallet

variable {σ : Type} (tb : Toolbox) (hid : Hidapi σ)

/-- The call reports a signature exactly for a response of 65 bytes, whose bytes
are then those of the signature and of the output; otherwise it throws. -/
structure SignsWellFormed (retries : Nat) (rawTx : Bytes) (deriveIndex : UInt32)
    (response : Bytes) (scene : Scene NanosWallet σ) : Prop where
  succeeds : (∃ sign, ((signTx tb hid retries rawTx deriveIndex).run scene).1 = .ok sign ∧
    sign.success = true) ↔ response.length = 65
  tiles : ∀ sign, ((signTx tb hid retries rawTx deriveIndex).run scene).1 = .ok sign →
    sign.r.length = 32 ∧ sign.s.length = 32 ∧ sign.v.length = 1 ∧
      sign.r ++ sign.s ++ sign.v = response ∧ actionSignTxOutput tb sign = response
  throws : response.length ≠ 65 → ∃ exception,
    ((signTx tb hid retries rawTx deriveIndex).run scene).1 = .error (.throws exception)

variable {tb hid}

section Answered

variable {scene reached : Scene NanosWallet σ} {retries : Nat} {rawTx : Bytes}
  {deriveIndex : UInt32} {apdu : Apdu} {response : Bytes}
  (requested : ((Command.signTx rawTx deriveIndex).request tb).run scene = (.ok apdu, scene))
  (answered : (exchange tb hid retries apdu (some codeSuccess)).run scene =
    (.ok (response, some codeSuccess), reached))

include requested answered

/-- After a response with a success status, the call cuts it. -/
theorem signTx_outcome :
    ((signTx tb hid retries rawTx deriveIndex).run scene).1 =
      if 64 ≤ response.length then
        .ok { r := response.take 32, s := (response.drop 32).take 32,
              v := response.drop (response.length - 1), success := true }
      else .error (.throws .outOfRange) := by
  have passed : (signTxResponse tb hid retries rawTx deriveIndex).run scene =
      (.ok response, reached) :=
    (Action.run_bind_ok requested _).trans (command_run_of_success tb hid answered _)
  have cut := Action.run_bind_ok passed (signature tb)
  rw [signature_run] at cut
  exact congrArg Prod.fst cut

/-- The call takes exactly the well-formed responses for signatures, if it is not
given 64 bytes or more than 65. -/
theorem signTx_wellFormed_iff :
    SignsWellFormed tb hid retries rawTx deriveIndex response scene ↔
      response.length < 64 ∨ response.length = 65 := by
  have outcome := signTx_outcome requested answered
  constructor
  · intro wellFormed
    by_cases enough : 64 ≤ response.length
    · rw [if_pos enough] at outcome
      exact .inr (wellFormed.succeeds.mp ⟨_, outcome, rfl⟩)
    · exact .inl (by omega)
  · rintro (short | exact)
    · rw [if_neg (by omega)] at outcome
      refine ⟨?_, ?_, fun _ => ⟨_, outcome⟩⟩
      · rw [outcome]
        simp
        omega
      · rw [outcome]
        simp
    · rw [if_pos (by omega)] at outcome
      refine ⟨iff_of_true ⟨_, outcome, rfl⟩ exact, ?_, fun other => absurd exact other⟩
      intro sign signed
      rw [outcome, Except.ok.injEq] at signed
      subst signed
      have whole : response.take 32 ++ (response.drop 32).take 32 ++
          response.drop (response.length - 1) = response := by
        rw [exact, ← List.take_add, List.take_append_drop]
      have output := actionSignTxOutput_eq tb
        { r := response.take 32, s := (response.drop 32).take 32,
          v := response.drop (response.length - 1), success := true }
        (by simp [exact]) (by simp [exact]) (by simp [exact])
      exact ⟨by simp [exact], by simp [exact], by simp [exact], whole, output.trans whole⟩

end Answered

/-! ## Two responses -/

/-- The index 5 and 32 bytes. -/
def hashPayload : Bytes := [0, 0, 0, 5] ++ List.replicate 32 7

/-- The request to sign them. -/
def hashApdu : Apdu :=
  { signTxApdu with
    payload := ⟨(hashPayload ++ emptyPayload.toList.drop hashPayload.length).toArray, by
      simp [hashPayload]⟩ }

theorem hash_requested (scene : Scene NanosWallet σ) :
    ((Command.signTx (List.replicate 32 7) 5).request Toolbox.reference).run scene =
      (.ok hashApdu, scene) := by
  have content : unsignedHash Toolbox.reference (List.replicate 32 7) 5 = hashPayload := by
    decide +kernel
  unfold Command.request
  dsimp only
  rw [content, copyPayload, dif_pos (by decide)]
  rfl

/-- A device that answers with these bytes. -/
def signing (response : Bytes) : Scene NanosWallet Script :=
  opened ((inputReports (responseMessage response codeSuccess)).map ReadResult.ofReport)

def fullSignature : Bytes := List.replicate 32 1 ++ List.replicate 32 2 ++ [27]

theorem signTx_wellFormed_of_full :
    SignsWellFormed Toolbox.reference Script.device 0 (List.replicate 32 7) 5 fullSignature
      (signing fullSignature) := by
  have outcome : ((exchange Toolbox.reference Script.device 0 hashApdu (some codeSuccess)).run
      (signing fullSignature)).1 = .ok (fullSignature, some codeSuccess) := by
    decide +kernel
  exact (signTx_wellFormed_iff (hash_requested _) (Action.run_of_outcome outcome)).mpr
    (.inr (by decide))

/-- A response of 64 bytes is taken for a signature, whose `v` is the last byte of
its `s`. -/
theorem signTx_succeeds_without_v :
    ¬ ∀ (tb : Toolbox) (hid : Hidapi Script) (retries : Nat) (rawTx response : Bytes)
        (deriveIndex : UInt32) (apdu : Apdu) (scene reached : Scene NanosWallet Script),
      ((Command.signTx rawTx deriveIndex).request tb).run scene = (.ok apdu, scene) →
      (exchange tb hid retries apdu (some codeSuccess)).run scene =
        (.ok (response, some codeSuccess), reached) →
      SignsWellFormed tb hid retries rawTx deriveIndex response scene := by
  intro wellFormed
  have outcome : ((exchange Toolbox.reference Script.device 0 hashApdu (some codeSuccess)).run
      (signing (List.replicate 64 1))).1 = .ok (List.replicate 64 1, some codeSuccess) := by
    decide +kernel
  have signed : ((signTx Toolbox.reference Script.device 0 (List.replicate 32 7) 5).run
      (signing (List.replicate 64 1))).1 =
        .ok { r := List.replicate 32 1, s := List.replicate 32 1, v := [1], success := true } := by
    decide +kernel
  have succeeds := (wellFormed _ _ _ _ _ _ _ _ _ (hash_requested _)
    (Action.run_of_outcome outcome)).succeeds
  exact absurd (succeeds.mp ⟨_, signed, rfl⟩) (by decide)

end NanosWallet

end MhWallet
