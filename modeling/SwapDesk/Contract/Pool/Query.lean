import SwapDesk.Contract.Asset
import SwapDesk.Contract.PoolKind

/-! Questions to a pool contract. -/

namespace SwapDesk

/-- Which side of a swap its amount fixes. -/
inductive SwapSide where
  | giveIn
  | giveOut
  deriving DecidableEq

instance : Wire SwapSide where
  shape := .choice
    (.record "GiveIn" "give_in" .nil <|
     .record "GiveOut" "give_out" .nil .nil)
    { ofParts := fun
        | .inl () => .giveIn
        | .inr (.inl ()) => .giveOut
      parts := fun
        | .giveIn => .inl ()
        | .giveOut => .inr (.inl ())
      parts_ofParts := by rintro (_ | _ | ⟨⟨⟩⟩) <;> rfl
      ofParts_parts := by rintro (_ | _) <;> rfl }

namespace Pool

inductive Query where
  | config
  | feeParams
  | poolId
  | onJoin (assetsIn : Option (List Asset)) (mintAmount : Option Amount)
      (slippageTolerance : Option Decimal)
  | onExit (assetsOut : Option (List Asset)) (burnAmount : Option Amount)
  | onSwap (side : SwapSide) (offer ask : AssetInfo) (amount : Amount)
      (maxSpread beliefPrice : Option Decimal)
  | cumulativePrice (offer ask : AssetInfo)
  | cumulativePrices

def Query.name : Query → String
  | .config => "config"
  | .feeParams => "fee_params"
  | .poolId => "pool_id"
  | .onJoin .. => "on_join_pool"
  | .onExit .. => "on_exit_pool"
  | .onSwap .. => "on_swap"
  | .cumulativePrice .. => "cumulative_price"
  | .cumulativePrices => "cumulative_prices"

instance : Wire Query where
  shape := .choice
    (.record "Config" "config" .nil <|
     .record "FeeParams" "fee_params" .nil <|
     .record "PoolId" "pool_id" .nil <|
     .record "OnJoinPool" "on_join_pool"
       (.optional "assets_in" (.list Wire.shape) <|
        .optional "mint_amount" .amount <|
        .optional "slippage_tolerance" .decimal .nil) <|
     .record "OnExitPool" "on_exit_pool"
       (.optional "assets_out" (.list Wire.shape) <|
        .optional "burn_amount" .amount .nil) <|
     .record "OnSwap" "on_swap"
       (.required "swap_type" Wire.shape <|
        .required "offer_asset" Wire.shape <|
        .required "ask_asset" Wire.shape <|
        .required "amount" .amount <|
        .optional "max_spread" .decimal <|
        .optional "belief_price" .decimal .nil) <|
     .record "CumulativePrice" "cumulative_price"
       (.required "offer_asset" Wire.shape <|
        .required "ask_asset" Wire.shape .nil) <|
     .record "CumulativePrices" "cumulative_prices" .nil .nil)
    { ofParts := fun
        | .inl () => .config
        | .inr (.inl ()) => .feeParams
        | .inr (.inr (.inl ())) => .poolId
        | .inr (.inr (.inr (.inl (assets, mint, slippage, ())))) => .onJoin assets mint slippage
        | .inr (.inr (.inr (.inr (.inl (assets, burn, ()))))) => .onExit assets burn
        | .inr (.inr (.inr (.inr (.inr (.inl (side, offer, ask, amount, spread, price, ())))))) =>
          .onSwap side offer ask amount spread price
        | .inr (.inr (.inr (.inr (.inr (.inr (.inl (offer, ask, ()))))))) =>
          .cumulativePrice offer ask
        | .inr (.inr (.inr (.inr (.inr (.inr (.inr (.inl ()))))))) => .cumulativePrices
      parts := fun
        | .config => .inl ()
        | .feeParams => .inr (.inl ())
        | .poolId => .inr (.inr (.inl ()))
        | .onJoin assets mint slippage => .inr (.inr (.inr (.inl (assets, mint, slippage, ()))))
        | .onExit assets burn => .inr (.inr (.inr (.inr (.inl (assets, burn, ())))))
        | .onSwap side offer ask amount spread price =>
          .inr (.inr (.inr (.inr (.inr (.inl (side, offer, ask, amount, spread, price, ()))))))
        | .cumulativePrice offer ask =>
          .inr (.inr (.inr (.inr (.inr (.inr (.inl (offer, ask, ())))))))
        | .cumulativePrices => .inr (.inr (.inr (.inr (.inr (.inr (.inr (.inl ())))))))
      parts_ofParts := by rintro (_ | _ | _ | _ | _ | _ | _ | _ | ⟨⟨⟩⟩) <;> rfl
      ofParts_parts := by rintro (_ | _ | _ | _ | _ | _ | _ | _) <;> rfl }

end Pool

end SwapDesk
