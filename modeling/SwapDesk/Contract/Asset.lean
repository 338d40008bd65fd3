import SwapDesk.Wire.Basic

/-! Fungible assets: a token kept by a contract, or a denomination of the chain itself. -/

namespace SwapDesk

inductive AssetInfo where
  | token (contract : String)
  | native (denom : String)
  deriving DecidableEq

/-- The contract or the denomination, whichever names the asset. -/
def AssetInfo.label : AssetInfo → String
  | .token contract => contract
  | .native denom => denom

instance : Wire AssetInfo where
  shape := .choice
    (.record "Token" "token" (.required "contract_addr" .text .nil) <|
     .record "NativeToken" "native_token" (.required "denom" .text .nil) .nil)
    { ofParts := fun
        | .inl (contract, ()) => .token contract
        | .inr (.inl (denom, ())) => .native denom
      parts := fun
        | .token contract => .inl (contract, ())
        | .native denom => .inr (.inl (denom, ()))
      parts_ofParts := by rintro (_ | _ | ⟨⟨⟩⟩) <;> rfl
      ofParts_parts := by rintro (_ | _) <;> rfl }

structure Asset where
  info : AssetInfo
  amount : Amount
  deriving DecidableEq

instance : Wire Asset where
  shape := .record "Asset"
    (.required "info" Wire.shape <|
     .required "amount" .amount .nil)
    { ofParts := fun (info, amount, ()) => ⟨info, amount⟩
      parts := fun asset => (asset.info, asset.amount, ()) }

end SwapDesk
