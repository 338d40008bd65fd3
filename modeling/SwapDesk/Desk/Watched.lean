import SwapDesk.Desk.Basic

/-! Chains and wallets under watch. They behave as the ones inside them and keep a record of
what they are asked and of what they answer. -/

namespace SwapDesk

structure Asked where
  contract : String
  query : Bytes
  answer : Except QueryFailure Bytes

/-- A transaction with what came of its broadcast. -/
structure Broadcast where
  tx : Tx.Signed
  outcome : Except Trail Tx.Response

/-- A body and a fee with what came of their signing. -/
structure Signing where
  body : Tx.Body
  fee : Tx.Fee
  outcome : Except Trail Tx.Signed

structure WatchedChain (ν : Type) where
  inner : ν
  queries : List Asked := []
  broadcasts : List Broadcast := []

instance {ν : Type} [ChainAccess ν] : ChainAccess (WatchedChain ν) where
  smart contract query := fun watched =>
    let (answer, inner) := ChainAccess.smart contract query watched.inner
    (answer, { watched with inner, queries := watched.queries ++ [⟨contract, query, answer⟩] })
  broadcast tx := fun watched =>
    let (outcome, inner) := ChainAccess.broadcast tx watched.inner
    (outcome, { watched with inner, broadcasts := watched.broadcasts ++ [⟨tx, outcome⟩] })
  latestHeight := fun watched =>
    let (height, inner) := ChainAccess.latestHeight watched.inner
    (height, { watched with inner })

structure WatchedWallet (ω : Type) where
  inner : ω
  signings : List Signing := []
  commits : Nat := 0

instance {ω : Type} [Wallet ω] : Wallet (WatchedWallet ω) where
  address watched := Wallet.address watched.inner
  sign body fee := fun watched =>
    let (outcome, inner) := Wallet.sign body fee watched.inner
    (outcome, { watched with inner, signings := watched.signings ++ [⟨body, fee, outcome⟩] })
  commit watched := do
    let (inner, events) ← Wallet.commit watched.inner
    pure ({ watched with inner, commits := watched.commits + 1 }, events)

end SwapDesk
