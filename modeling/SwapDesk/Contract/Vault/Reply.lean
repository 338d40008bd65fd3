import SwapDesk.Contract.Vault.Terms

/-! What the vault contract answers. -/

namespace SwapDesk.Vault

structure Config where
  owner : String
  lpTokenCodeId : Option UInt64
  feeCollector : Option String
  generator : Option String
  nextPoolId : Option Amount

instance : Wire Config where
  shape := .record "ConfigResponse"
    (.required "owner" .text <|
     .optional "lp_token_code_id" .number64 <|
     .optional "fee_collector" .text <|
     .optional "generator_address" .text <|
     .optional "next_pool_id" .amount .nil)
    { ofParts := fun (owner, codeId, collector, generator, next, ()) =>
        ⟨owner, codeId, collector, generator, next⟩
      parts := fun config => (config.owner, config.lpTokenCodeId, config.feeCollector,
        config.generator, config.nextPoolId, ()) }

/-- Which operations of a pool are paused. -/
structure Pause where
  swap : Bool := false
  deposit : Bool := false

instance : Wire Pause where
  shape := .record "PauseInfo"
    (.required "swap" .flag <|
     .required "deposit" .flag .nil)
    { ofParts := fun (swap, deposit, ()) => ⟨swap, deposit⟩
      parts := fun pause => (pause.swap, pause.deposit, ()) }

structure PoolInfo where
  poolId : Amount
  pool : String
  lpToken : String
  fees : FeeTerms
  assets : List Asset
  kind : PoolKind
  paused : Pause := {}

instance : Wire PoolInfo where
  shape := .record "PoolInfo"
    (.required "pool_id" .amount <|
     .required "pool_addr" .text <|
     .required "lp_token_addr" .text <|
     .required "fee_info" Wire.shape <|
     .required "assets" (.list Wire.shape) <|
     .required "pool_type" Wire.shape <|
     .defaulted "paused" {} Wire.shape .nil)
    { ofParts := fun (poolId, pool, lpToken, fees, assets, kind, paused, ()) =>
        ⟨poolId, pool, lpToken, fees, assets, kind, paused⟩
      parts := fun info => (info.poolId, info.pool, info.lpToken, info.fees, info.assets,
        info.kind, info.paused, ()) }

end SwapDesk.Vault
