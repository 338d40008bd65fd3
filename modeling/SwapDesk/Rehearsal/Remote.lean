import SwapDesk.Node.Chain
import SwapDesk.Rehearsal.Script

/-! A far end in memory. It listens at one authority and follows a script. -/

namespace SwapDesk.Rehearsal

/-- What a far end is to say to one call. The reply to a question for an account may depend on
the address. -/
inductive Reply where
  | nodeInfo (network : Option String)
  | block (header : Option (Option Int))
  | account (record : String → Option Protobuf.Typed)
  | smart (answer : Bytes)
  | broadcast (response : Option Tx.Response)
  | status (code : Node.Code) (message : String)

/-- Statuses come with the type of the content that they stand in for. -/
def statusFrom (code : Node.Code) (message : String) : Node.Status :=
  ⟨code, message, [("content-type", "application/grpc")]⟩

def unscripted : Reply := .status .unimplemented "unscripted"

/-- The reply as a response to the call. A reply to another kind of call is none. -/
def Reply.response (reply : Reply) (call : Node.Call) : Except Node.Status call.Reply :=
  match call, reply with
  | .nodeInfo, .nodeInfo network => .ok network
  | .latestBlock, .block header => .ok header
  | .account address, .account record => .ok (record address)
  | .smart _ _, .smart answer => .ok answer
  | .broadcast _, .broadcast response => .ok response
  | _, .status code message => .error (statusFrom code message)
  | _, _ => .error (statusFrom .unimplemented "unscripted")

/-- Replies to all calls: one each for the calls that are not queries, and a script. Replies
that are laid out in advance serve calls of every kind. -/
structure Remote where
  authority : Option String
  accepting : Bool
  nodeInfo : Reply := unscripted
  block : Reply := unscripted
  account : Reply := unscripted
  broadcast : Reply := unscripted
  script : Script Reply := { otherwise := unscripted }
  links : Nat := 0

namespace Remote

/-- The reply to a call, and the far end from then on. -/
def reply (remote : Remote) (call : Node.Call) : Reply × Remote :=
  match remote.script.replies with
  | reply :: replies => (reply, { remote with script := { remote.script with replies } })
  | [] =>
    match call with
    | .nodeInfo => (remote.nodeInfo, remote)
    | .latestBlock => (remote.block, remote)
    | .account _ => (remote.account, remote)
    | .broadcast _ => (remote.broadcast, remote)
    | .smart contract query =>
      let (reply, script) := remote.script.next contract query
      (reply, { remote with script })

def nobodyListens : Node.DialFault :=
  ⟨["transport error", "tcp connect error", "Connection refused"]⟩

end Remote

instance : Node.Endpoint Remote where
  Link := Nat
  dial uri := fun remote =>
    if remote.accepting && uri.authority == remote.authority then
      (.ok remote.links, { remote with links := remote.links + 1 })
    else (.error Remote.nobodyListens, remote)
  send _ call := fun remote =>
    let (reply, remote) := remote.reply call
    (reply.response call, remote)

end SwapDesk.Rehearsal
