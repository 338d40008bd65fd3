import SwapDesk.Contract.Vault.Action
import SwapDesk.Contract.Vault.Exit
import SwapDesk.Desk.Basic
import SwapDesk.Tx.Template

/-! Executions of contracts. Every execution takes one path: one body is signed, what is signed
is broadcast once, and the wallet commits if the node took it in. -/

namespace SwapDesk.Desk

def executionFee : Tx.Fee := ⟨5000000, .ofUInt64 6250000⟩

variable {ν ω μ : Type} [ChainAccess ν] [Wallet ω] [Wire μ]

/-- Tells the wallet that the node took its transaction in. -/
def commit : Work ν ω Unit := do
  let desk ← get
  match Wallet.commit desk.wallet with
  | .error overflow => throw overflow
  | .ok (wallet, events) => set { desk with wallet, log := desk.log ++ events }

/-- Records what the node said of a transaction. -/
def settle (contract operation : String) (response : Tx.Response) : Work ν ω Unit := do
  if response.isAccepted then
    commit
    steadily (emit [.accepted contract operation response])
  else
    steadily (emit [.refused contract operation response])

def submit (body : Tx.Body) : StateM (Desk ν ω) (Except Trail Tx.Response) := do
  match ← onWallet (Wallet.sign body executionFee) with
  | .error trail => pure (.error (trail.within "Failed to sign transaction!"))
  | .ok tx => onChain (ChainAccess.broadcast tx)

def execute (contract operation : String) (message : μ) :
    Work ν ω (Except Trail Tx.Response) := do
  let desk ← get
  let template : Tx.Template := { sender := Wallet.address desk.wallet, contract }
  match ((Tx.Template.apply (.ok (Wire.json message))).run template).1 with
  | .error unwritable => pure (.error unwritable.trail)
  | .ok body =>
    match ← steadily (submit body) with
    | .error trail => pure (.error trail)
    | .ok response =>
      settle contract operation response
      pure (.ok response)

def instruct (vault : String) (action : Vault.Action) : Work ν ω (Except Trail Tx.Response) :=
  execute vault action.name action

/-- Leaves a pool: the LP tokens go to the vault, so it is their contract that is executed. -/
def exitPool (vault lpToken : String) (amount : Amount) (hook : Vault.Hook) :
    Work ν ω (Except Trail Tx.Response) :=
  execute lpToken hook.name (hook.intoSend vault amount)

def increaseAllowance (token spender : String) (amount : Amount) (expires : Option Expiration) :
    Work ν ω (Except Trail Tx.Response) :=
  let action := Token.Action.increaseAllowance spender amount expires
  execute token action.name action

end SwapDesk.Desk
