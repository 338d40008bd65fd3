import SwapDesk.Contract.Asset

/-! What a pool contract answers. -/

namespace SwapDesk.Pool

structure Config where
  poolId : Amount
  lpToken : String
  vault : String
  assets : List Asset

instance : Wire Config where
  shape := .record "ConfigResponse"
    (.required "pool_id" .amount <|
     .required "lp_token_addr" .text <|
     .required "vault_addr" .text <|
     .required "assets" (.list Wire.shape) .nil)
    { ofParts := fun (poolId, lpToken, vault, assets, ()) => ⟨poolId, lpToken, vault, assets⟩
      parts := fun config => (config.poolId, config.lpToken, config.vault, config.assets, ()) }

structure Fees where
  totalBps : UInt16

instance : Wire Fees where
  shape := .record "FeeResponse" (.required "total_fee_bps" .number16 .nil)
    { ofParts := fun (totalBps, ()) => ⟨totalBps⟩
      parts := fun fees => (fees.totalBps, ()) }

/-- Whether the pool's arithmetic accepts what was simulated. -/
inductive Verdict where
  | success
  | failure (reason : String)

instance : Wire Verdict where
  shape := .choice
    (.record "Success" "success" .nil <|
     .wrap "Failure" "failure" .text .nil)
    { ofParts := fun
        | .inl () => .success
        | .inr (.inl reason) => .failure reason
      parts := fun
        | .success => .inl ()
        | .failure reason => .inr (.inl reason)
      parts_ofParts := by rintro (_ | _ | ⟨⟨⟩⟩) <;> rfl
      ofParts_parts := by rintro (_ | _) <;> rfl }

structure AfterJoin where
  providedAssets : List Asset
  newShares : Amount
  verdict : Verdict
  fee : Option (List Asset)

instance : Wire AfterJoin where
  shape := .record "AfterJoinResponse"
    (.required "provided_assets" (.list Wire.shape) <|
     .required "new_shares" .amount <|
     .required "response" Wire.shape <|
     .optional "fee" (.list Wire.shape) .nil)
    { ofParts := fun (provided, shares, verdict, fee, ()) => ⟨provided, shares, verdict, fee⟩
      parts := fun reply => (reply.providedAssets, reply.newShares, reply.verdict, reply.fee, ()) }

structure AfterExit where
  assetsOut : List Asset
  burnShares : Amount
  verdict : Verdict
  fee : Option (List Asset)

instance : Wire AfterExit where
  shape := .record "AfterExitResponse"
    (.required "assets_out" (.list Wire.shape) <|
     .required "burn_shares" .amount <|
     .required "response" Wire.shape <|
     .optional "fee" (.list Wire.shape) .nil)
    { ofParts := fun (assets, shares, verdict, fee, ()) => ⟨assets, shares, verdict, fee⟩
      parts := fun reply => (reply.assetsOut, reply.burnShares, reply.verdict, reply.fee, ()) }

structure Trade where
  amountIn : Amount
  amountOut : Amount
  spread : Amount

instance : Wire Trade where
  shape := .record "Trade"
    (.required "amount_in" .amount <|
     .required "amount_out" .amount <|
     .required "spread" .amount .nil)
    { ofParts := fun (amountIn, amountOut, spread, ()) => ⟨amountIn, amountOut, spread⟩
      parts := fun trade => (trade.amountIn, trade.amountOut, trade.spread, ()) }

structure AfterSwap where
  trade : Trade
  verdict : Verdict
  fee : Option Asset

instance : Wire AfterSwap where
  shape := .record "SwapResponse"
    (.required "trade_params" Wire.shape <|
     .required "response" Wire.shape <|
     .optional "fee" Wire.shape .nil)
    { ofParts := fun (trade, verdict, fee, ()) => ⟨trade, verdict, fee⟩
      parts := fun reply => (reply.trade, reply.verdict, reply.fee, ()) }

structure ExchangeRate where
  offer : AssetInfo
  ask : AssetInfo
  rate : Amount

instance : Wire ExchangeRate where
  shape := .record "AssetExchangeRate"
    (.required "offer_info" Wire.shape <|
     .required "ask_info" Wire.shape <|
     .required "rate" .amount .nil)
    { ofParts := fun (offer, ask, rate, ()) => ⟨offer, ask, rate⟩
      parts := fun exchange => (exchange.offer, exchange.ask, exchange.rate, ()) }

structure CumulativePrice where
  exchange : ExchangeRate
  totalShare : Amount

instance : Wire CumulativePrice where
  shape := .record "CumulativePriceResponse"
    (.required "exchange_info" Wire.shape <|
     .required "total_share" .amount .nil)
    { ofParts := fun (exchange, totalShare, ()) => ⟨exchange, totalShare⟩
      parts := fun price => (price.exchange, price.totalShare, ()) }

structure CumulativePrices where
  exchanges : List ExchangeRate
  totalShare : Amount

instance : Wire CumulativePrices where
  shape := .record "CumulativePricesResponse"
    (.required "exchange_infos" (.list Wire.shape) <|
     .required "total_share" .amount .nil)
    { ofParts := fun (exchanges, totalShare, ()) => ⟨exchanges, totalShare⟩
      parts := fun prices => (prices.exchanges, prices.totalShare, ()) }

end SwapDesk.Pool
