import SwapDesk.Contract.Asset
import SwapDesk.Contract.Token

/-! Leaving a pool. The request to leave travels inside a transfer of the pool's LP tokens
to the vault, so it is addressed to the LP token's contract. -/

namespace SwapDesk.Vault

inductive Hook where
  | exitPool (poolId : Amount) (recipient : Option String) (assets : Option (List Asset))
      (burnAmount : Option Amount)

def Hook.name : Hook → String
  | .exitPool .. => "exit_pool"

instance : Wire Hook where
  shape := .choice
    (.record "ExitPool" "exit_pool"
       (.required "pool_id" .amount <|
        .optional "recipient" .text <|
        .optional "assets" (.list Wire.shape) <|
        .optional "burn_amount" .amount .nil) .nil)
    { ofParts := fun | .inl (poolId, recipient, assets, burn, ()) => .exitPool poolId recipient assets burn
      parts := fun
        | .exitPool poolId recipient assets burn => .inl (poolId, recipient, assets, burn, ())
      parts_ofParts := by rintro (_ | ⟨⟨⟩⟩); rfl
      ofParts_parts := by rintro ⟨⟩; rfl }

/-- The transfer of LP tokens to the vault that carries the hook. -/
def Hook.intoSend (hook : Hook) (vault : String) (amount : Amount) : Token.Action :=
  .send vault amount ⟨Wire.encode hook⟩

end SwapDesk.Vault
