import SwapDesk.Contract.Vault.Terms

/-! Actions of the vault contract. -/

namespace SwapDesk.Vault

inductive Action where
  | updateConfig (lpTokenCodeId : Option UInt64) (feeCollector generator : Option String)
  | updatePoolConfig (kind : PoolKind) (isDisabled : Option Bool) (newFees : Option FeeTerms)
  | addToRegistry (terms : PoolTerms)
  | createPool (kind : PoolKind) (assets : List AssetInfo) (lpTokenName lpTokenSymbol : Option String)
      (initParams : Option Payload)
  | joinPool (poolId : Amount) (recipient : Option String) (assets : Option (List Asset))
      (lpToMint : Option Amount) (initParams : Option Payload)
  | swap (order : SwapOrder) (recipient : Option String)
  | proposeNewOwner (owner : String) (expiresIn : Option UInt64)
  | dropOwnershipProposal
  | claimOwnership

def Action.name : Action → String
  | .updateConfig .. => "update_config"
  | .updatePoolConfig .. => "update_pool_config"
  | .addToRegistry _ => "add_to_registry"
  | .createPool .. => "create_pool_instance"
  | .joinPool .. => "join_pool"
  | .swap .. => "swap"
  | .proposeNewOwner .. => "propose_new_owner"
  | .dropOwnershipProposal => "drop_ownership_proposal"
  | .claimOwnership => "claim_ownership"

instance : Wire Action where
  shape := .choice
    (.record "UpdateConfig" "update_config"
       (.optional "lp_token_code_id" .number64 <|
        .optional "fee_collector" .text <|
        .optional "generator_address" .text .nil) <|
     .record "UpdatePoolConfig" "update_pool_config"
       (.required "pool_type" Wire.shape <|
        .optional "is_disabled" .flag <|
        .optional "new_fee_info" Wire.shape .nil) <|
     .record "AddToRegistry" "add_to_registry"
       (.required "new_pool_config" Wire.shape .nil) <|
     .record "CreatePoolInstance" "create_pool_instance"
       (.required "pool_type" Wire.shape <|
        .required "asset_infos" (.list Wire.shape) <|
        .optional "lp_token_name" .text <|
        .optional "lp_token_symbol" .text <|
        .optional "init_params" .payload .nil) <|
     .record "JoinPool" "join_pool"
       (.required "pool_id" .amount <|
        .optional "recipient" .text <|
        .optional "assets" (.list Wire.shape) <|
        .optional "lp_to_mint" .amount <|
        .optional "init_params" .payload .nil) <|
     .record "Swap" "swap"
       (.required "swap_request" Wire.shape <|
        .optional "recipient" .text .nil) <|
     .record "ProposeNewOwner" "propose_new_owner"
       (.required "owner" .text <|
        .optional "expires_in" .number64 .nil) <|
     .record "DropOwnershipProposal" "drop_ownership_proposal" .nil <|
     .record "ClaimOwnership" "claim_ownership" .nil .nil)
    { ofParts := fun
        | .inl (codeId, collector, generator, ()) => .updateConfig codeId collector generator
        | .inr (.inl (kind, disabled, fees, ())) => .updatePoolConfig kind disabled fees
        | .inr (.inr (.inl (terms, ()))) => .addToRegistry terms
        | .inr (.inr (.inr (.inl (kind, assets, name, symbol, params, ())))) =>
          .createPool kind assets name symbol params
        | .inr (.inr (.inr (.inr (.inl (poolId, recipient, assets, mint, params, ()))))) =>
          .joinPool poolId recipient assets mint params
        | .inr (.inr (.inr (.inr (.inr (.inl (order, recipient, ())))))) => .swap order recipient
        | .inr (.inr (.inr (.inr (.inr (.inr (.inl (owner, expiry, ()))))))) =>
          .proposeNewOwner owner expiry
        | .inr (.inr (.inr (.inr (.inr (.inr (.inr (.inl ()))))))) => .dropOwnershipProposal
        | .inr (.inr (.inr (.inr (.inr (.inr (.inr (.inr (.inl ())))))))) => .claimOwnership
      parts := fun
        | .updateConfig codeId collector generator => .inl (codeId, collector, generator, ())
        | .updatePoolConfig kind disabled fees => .inr (.inl (kind, disabled, fees, ()))
        | .addToRegistry terms => .inr (.inr (.inl (terms, ())))
        | .createPool kind assets name symbol params =>
          .inr (.inr (.inr (.inl (kind, assets, name, symbol, params, ()))))
        | .joinPool poolId recipient assets mint params =>
          .inr (.inr (.inr (.inr (.inl (poolId, recipient, assets, mint, params, ())))))
        | .swap order recipient => .inr (.inr (.inr (.inr (.inr (.inl (order, recipient, ()))))))
        | .proposeNewOwner owner expiry =>
          .inr (.inr (.inr (.inr (.inr (.inr (.inl (owner, expiry, ())))))))
        | .dropOwnershipProposal => .inr (.inr (.inr (.inr (.inr (.inr (.inr (.inl ())))))))
        | .claimOwnership => .inr (.inr (.inr (.inr (.inr (.inr (.inr (.inr (.inl ()))))))))
      parts_ofParts := by rintro (_ | _ | _ | _ | _ | _ | _ | _ | _ | ⟨⟨⟩⟩) <;> rfl
      ofParts_parts := by rintro (_ | _ | _ | _ | _ | _ | _ | _ | _) <;> rfl }

end SwapDesk.Vault
