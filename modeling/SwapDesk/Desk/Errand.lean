import SwapDesk.Desk.Execution
import SwapDesk.Desk.Query

/-! Everything that a desk can be asked to do, as data. -/

namespace SwapDesk.Desk

/-- One thing to do, indexed by what comes of it. -/
inductive Errand : Type → Type 1 where
  | height : Errand (Except Trail Nat)
  | askVault {α : Type} [Wire α] (vault : String) (query : Vault.Query) : Errand (QueryResult α)
  | askPool {α : Type} [Wire α] (pool : String) (query : Pool.Query) : Errand (QueryResult α)
  | balance (token account : String) : Errand (QueryResult Token.Balance)
  | instruct (vault : String) (action : Vault.Action) : Errand (Except Trail Tx.Response)
  | exitPool (vault lpToken : String) (amount : Amount) (hook : Vault.Hook) :
      Errand (Except Trail Tx.Response)
  | increaseAllowance (token spender : String) (amount : Amount) (expires : Option Expiration) :
      Errand (Except Trail Tx.Response)

def Errand.perform {ν ω α : Type} [ChainAccess ν] [Wallet ω] : Errand α → Work ν ω α
  | .height => steadily blockHeight
  | @askVault _ _ vault query => steadily (Desk.askVault vault query)
  | @askPool _ _ pool query => steadily (Desk.askPool pool query)
  | .balance token account => steadily (Desk.balance token account)
  | .instruct vault action => Desk.instruct vault action
  | .exitPool vault lpToken amount hook => Desk.exitPool vault lpToken amount hook
  | .increaseAllowance token spender amount expires =>
    Desk.increaseAllowance token spender amount expires

end SwapDesk.Desk
