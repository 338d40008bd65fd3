import SwapDesk.Node.Connection

/-! Queries that a node passes on to a contract. -/

namespace SwapDesk.Node

/-- Why a query has no answer: there was no connection, it failed underway, or the node or the
contract refused. -/
inductive SmartFault where
  | connection (cause : Trail)
  | transport (status : Status)
  | rejected (status : Status)

namespace SmartFault

def ofStatus (status : Status) : SmartFault :=
  if status.code.isTransport then .transport status else .rejected status

def message : SmartFault → String
  | .connection cause => "Failed to obtain connection to node! Cause: " ++ cause.text
  | .transport status => "Node could not be reached! Cause: " ++ status.text
  | .rejected status => "Node or contract rejected the query! Cause: " ++ status.text

end SmartFault

def Connection.smart {τ : Type} [Endpoint τ] (contract : String) (query : Bytes) :
    ExceptT SmartFault (StateM (Connection τ)) Bytes := do
  match ← (request (.smart contract query) : StateM (Connection τ) _) with
  | .ok answer => pure answer
  | .error (.unlinked cause) => throw (.connection cause.trail)
  | .error (.status status) => throw (.ofStatus status)

end SwapDesk.Node
