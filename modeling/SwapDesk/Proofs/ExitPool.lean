import SwapDesk.Proofs.DeskWork
import SwapDesk.Proofs.JsonReading
import SwapDesk.Proofs.WireRoundTrip

/-! Leaving a pool. Whoever takes the signed message apart, layer by layer, arrives at the
request that was made. -/

namespace SwapDesk.Desk

open Json (Holds)

variable {ν ω : Type} [ChainAccess ν] [Wallet ω]

/-- The JSON of a transfer to the vault with a message in base64. -/
def sendJson (vault amount message : String) : Json :=
  .object [("send", .object
    [("contract", .text vault), ("amount", .text amount), ("msg", .text message)])]

theorem json_intoSend (hook : Vault.Hook) (vault : String) (amount : Amount) :
    Wire.json (hook.intoSend vault amount) =
      sendJson vault amount.text (Base64.encode (Wire.encode hook)) := rfl

theorem extract_encoded {α : Type} [Wire α] (value : α) :
    (Payload.mk (Wire.encode value)).extract = .ok value := by
  rw [Payload.extract, Wire.decode_encode]
  rfl

/-- One body is signed, with one message to the contract of the LP tokens. The message is a
transfer to the vault, and its payload is the request. -/
theorem exitPool_delivers (desk : Desk ν (WatchedWallet ω)) (vault lpToken : String)
    (amount poolId : Amount) (recipient : Option String) (assets : Option (List Asset))
    (burnAmount : Option Amount) :
    let hook := Vault.Hook.exitPool poolId recipient assets burnAmount
    ∃ message embedded payload outcome,
      ((exitPool vault lpToken amount hook).result desk).2.wallet.signings =
        desk.wallet.signings ++
          [⟨{ messages := [⟨Wallet.address desk.wallet, lpToken, message, []⟩] }, executionFee,
            outcome⟩] ∧
      (∀ json, Holds message json ↔ json = sendJson vault amount.text embedded) ∧
      Payload.read embedded = .ok payload ∧
      payload.extract = .ok hook := by
  intro hook
  refine ⟨Wire.encode (hook.intoSend vault amount), Base64.encode (Wire.encode hook),
    ⟨Wire.encode hook⟩, _, execute_signs lpToken hook.name _ desk, ?_, ?_, extract_encoded hook⟩
  · intro json
    rw [← json_intoSend]
    exact Json.holds_bytes _ json
  · rw [Payload.read, ← Payload.toBase64, Payload.ofBase64_toBase64]
    rfl

end SwapDesk.Desk
