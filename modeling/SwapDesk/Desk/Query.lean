import SwapDesk.Contract.Pool.Query
import SwapDesk.Contract.Token
import SwapDesk.Contract.Vault.Query
import SwapDesk.Desk.Basic

/-! Questions to contracts. Each question is sent once and logged once, and its outcome depends
on nothing but the answer to it. -/

namespace SwapDesk.Desk

variable {ν ω μ α : Type} [ChainAccess ν] [Wire μ] [Wire α]

def outcome (contract operation : String) : QueryResult α → Event
  | .response _ => .queryAnswered contract operation
  | .absent failure => .queryUnanswered contract operation failure

def ask (contract operation : String) (message : μ) : StateM (Desk ν ω) (QueryResult α) := do
  let answer ← onChain (ChainAccess.smart contract (Wire.encode message))
  let result := QueryResult.read answer
  emit [outcome contract operation result]
  pure result

def askVault (vault : String) (query : Vault.Query) : StateM (Desk ν ω) (QueryResult α) :=
  ask vault query.name query

def askPool (pool : String) (query : Pool.Query) : StateM (Desk ν ω) (QueryResult α) :=
  ask pool query.name query

def balance (token account : String) : StateM (Desk ν ω) (QueryResult Token.Balance) :=
  let query := Token.Query.balance account
  ask token query.name query

end SwapDesk.Desk
