import SwapDesk.Contract.Pool.Query

/-! The terms on which the vault runs pools and swaps. -/

namespace SwapDesk.Vault

/-- The fee on a traded amount in basis points and the percentage of it that goes to the
protocol. -/
structure FeeTerms where
  totalBps : UInt16
  protocolPercent : UInt16
  deriving DecidableEq

instance : Wire FeeTerms where
  shape := .record "FeeInfo"
    (.required "total_fee_bps" .number16 <|
     .required "protocol_fee_percent" .number16 .nil)
    { ofParts := fun (totalBps, protocolPercent, ()) => ⟨totalBps, protocolPercent⟩
      parts := fun terms => (terms.totalBps, terms.protocolPercent, ()) }

/-- How the vault sets up pools of one kind. -/
structure PoolTerms where
  codeId : UInt64
  kind : PoolKind
  fees : FeeTerms
  isDisabled : Bool := false
  isGeneratorDisabled : Bool := false
  deriving DecidableEq

instance : Wire PoolTerms where
  shape := .record "PoolConfig"
    (.required "code_id" .number64 <|
     .required "pool_type" Wire.shape <|
     .required "fee_info" Wire.shape <|
     .defaulted "is_disabled" false .flag <|
     .defaulted "is_generator_disabled" false .flag .nil)
    { ofParts := fun (codeId, kind, fees, disabled, generatorDisabled, ()) =>
        ⟨codeId, kind, fees, disabled, generatorDisabled⟩
      parts := fun terms =>
        (terms.codeId, terms.kind, terms.fees, terms.isDisabled, terms.isGeneratorDisabled, ()) }

structure SwapOrder where
  poolId : Amount
  assetIn : AssetInfo
  assetOut : AssetInfo
  side : SwapSide
  amount : Amount
  maxSpread : Option Decimal
  beliefPrice : Option Decimal

instance : Wire SwapOrder where
  shape := .record "SingleSwapRequest"
    (.required "pool_id" .amount <|
     .required "asset_in" Wire.shape <|
     .required "asset_out" Wire.shape <|
     .required "swap_type" Wire.shape <|
     .required "amount" .amount <|
     .optional "max_spread" .decimal <|
     .optional "belief_price" .decimal .nil)
    { ofParts := fun (poolId, assetIn, assetOut, side, amount, maxSpread, beliefPrice, ()) =>
        ⟨poolId, assetIn, assetOut, side, amount, maxSpread, beliefPrice⟩
      parts := fun order => (order.poolId, order.assetIn, order.assetOut, order.side, order.amount,
        order.maxSpread, order.beliefPrice, ()) }

end SwapDesk.Vault
