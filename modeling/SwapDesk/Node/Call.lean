import SwapDesk.Node.Status
import SwapDesk.Node.Uri
import SwapDesk.Protobuf.Writer

/-! The remote calls that a node answers, and the far end that they are made to. -/

namespace SwapDesk.Tx

/-- The answer to a broadcast. Code 0 means that the node took the transaction in; it says
nothing about a block. -/
structure Response where
  height : Int := 0
  code : UInt32 := 0
  codespace : String := ""
  hash : String := ""
  log : String := ""
  deriving DecidableEq

def Response.isAccepted (response : Response) : Bool := response.code == 0

end SwapDesk.Tx

namespace SwapDesk.Node

inductive Call where
  | nodeInfo
  | latestBlock
  | account (address : String)
  | smart (contract : String) (query : Bytes)
  | broadcast (tx : Bytes)
  deriving DecidableEq

/-- What a response carries: the name of the chain, the height in the header of the block,
the account's record, the contract's answer, the node's word on the transaction. A part that
may be missing from a response is an option. -/
def Call.Reply : Call → Type
  | .nodeInfo => Option String
  | .latestBlock => Option (Option Int)
  | .account _ => Option Protobuf.Typed
  | .smart _ _ => Bytes
  | .broadcast _ => Option Tx.Response

/-- Why no link came about, outermost cause first. -/
structure DialFault where
  causes : List String

/-- The far end of all connections. `dial` makes a new link to an address, and `send` puts
one call on a link. -/
class Endpoint (τ : Type) where
  Link : Type
  dial : Uri → StateM τ (Except DialFault Link)
  send : Link → (call : Call) → StateM τ (Except Status call.Reply)

end SwapDesk.Node
