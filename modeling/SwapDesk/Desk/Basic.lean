import SwapDesk.Signer

/-! A desk: access to a chain, a wallet, and a log of what happened. -/

namespace SwapDesk

/-- Access to a chain. Nothing is promised about how the answers come about. -/
class ChainAccess (ν : Type) where
  smart : (contract : String) → (query : Bytes) → StateM ν (Except QueryFailure Bytes)
  broadcast : Tx.Signed → StateM ν (Except Trail Tx.Response)
  latestHeight : StateM ν (Except Trail Nat)

/-- An account that can sign. `commit` is told of each transaction that the node took in. -/
class Wallet (ω : Type) where
  address : ω → String
  sign : Tx.Body → Tx.Fee → StateM ω (Except Trail Tx.Signed)
  commit : ω → Except Overflow (ω × List Event)

structure Desk (ν ω : Type) where
  chain : ν
  wallet : ω
  log : List Event := []

namespace Desk

variable {ν ω : Type}

def onChain {α : Type} (action : StateM ν α) : StateM (Desk ν ω) α := fun desk =>
  let (value, chain) := action desk.chain
  (value, { desk with chain })

def onWallet {α : Type} (action : StateM ω α) : StateM (Desk ν ω) α := fun desk =>
  let (value, wallet) := action desk.wallet
  (value, { desk with wallet })

def emit (events : List Event) : StateM (Desk ν ω) Unit :=
  modify fun desk => { desk with log := desk.log ++ events }

/-- Work that stops the program if the wallet cannot count any further. What was done until
then stays done. -/
abbrev Work (ν ω : Type) := ExceptT Overflow (StateM (Desk ν ω))

/-- What comes of work, and the desk that it leaves behind. -/
def Work.result {α : Type} (work : Work ν ω α) (desk : Desk ν ω) : Except Overflow α × Desk ν ω :=
  (ExceptT.run work).run desk

/-- The value of work with the desk that it leaves behind, unless the program stopped. -/
def Work.run {α : Type} (work : Work ν ω α) (desk : Desk ν ω) : Except Overflow (α × Desk ν ω) :=
  let (outcome, desk) := work.result desk
  outcome.map fun value => (value, desk)

def steadily {α : Type} (action : StateM (Desk ν ω) α) : Work ν ω α := ExceptT.lift action

def blockHeight [ChainAccess ν] : StateM (Desk ν ω) (Except Trail Nat) :=
  onChain ChainAccess.latestHeight

end Desk

/-- A connection to a node gives access to the chain. -/
instance {τ : Type} [Node.Endpoint τ] : ChainAccess (Node.Connection τ) where
  smart contract query := (Node.Connection.smart contract query).adapt .ofSmartFault
  broadcast tx := (Node.Connection.broadcast tx).adapt Node.Fault.trail
  latestHeight := Node.Connection.latestHeight.adapt Node.Fault.trail

instance : Wallet Signer where
  address signer := signer.address.text
  sign body fee := fun signer => ((signer.sign body fee).mapError Signer.SignFault.trail, signer)
  commit signer := do
    let signer ← signer.advance
    pure (signer, [.sequenceAdvanced signer.sequence])

end SwapDesk
