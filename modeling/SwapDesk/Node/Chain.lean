import SwapDesk.Account.Record
import SwapDesk.Node.Connection
import SwapDesk.Tx.Signed

/-! What a node says of its chain: the chain's name, its height, its accounts, and whether it
takes a transaction in. -/

namespace SwapDesk.Node

/-- The name of a chain has 1 to 50 letters, digits and marks out of three. -/
def isChainId (text : String) : Bool :=
  0 < text.utf8ByteSize && text.utf8ByteSize ≤ 50 &&
    text.toList.all fun c => c.isAlphanum || c ∈ ['-', '_', '.']

structure ChainId where
  text : String
  valid : isChainId text = true

inductive ChainIdFault where
  | length
  | charset
  deriving DecidableEq

def ChainIdFault.message : ChainIdFault → String
  | .length => "StringTracer: length error"
  | .charset => "StringTracer: error parsing data: chain id charset"

/-- The length is checked before the characters. -/
def ChainId.ofText (text : String) : Except ChainIdFault ChainId :=
  if valid : isChainId text = true then .ok ⟨text, valid⟩
  else if text.isEmpty || 50 < text.utf8ByteSize then .error .length
  else .error .charset

inductive Fault where
  | unlinked (cause : DialFault)
  | noNodeInfo (status : Status)
  | emptyNodeInfo
  | badChainId (text : String) (cause : ChainIdFault)
  | noLatestBlock (status : Status)
  | emptyLatestBlock
  | noHeader
  | noAccount (address : String) (status : Status)
  | emptyAccount (address : String)
  | badAccount (cause : Account.Record.Fault)
  | notBroadcast (status : Status)
  | emptyBroadcast

def Fault.trail : Fault → Trail
  | .unlinked cause => cause.trail
  | .noNodeInfo status => ⟨"Failed to query node information!", [status.text]⟩
  | .emptyNodeInfo => ⟨"Node information response is empty!", []⟩
  | .badChainId text cause => ⟨"Malformed chain ID " ++ Text.quoted text ++ "!", [cause.message]⟩
  | .noLatestBlock status => ⟨"Failed to query latest block!", [status.text]⟩
  | .emptyLatestBlock => ⟨"Latest block response carries no block!", []⟩
  | .noHeader => ⟨"Latest block carries no header!", []⟩
  | .noAccount address status => ⟨"Failed to query account " ++ address ++ "!", [status.text]⟩
  | .emptyAccount address => ⟨"No account data for " ++ address ++ "! Is it funded?", []⟩
  | .badAccount cause => cause.trail
  | .notBroadcast status => ⟨"Failed to broadcast transaction!", [status.text]⟩
  | .emptyBroadcast => ⟨"Broadcast response carries no transaction response!", []⟩

namespace Connection

variable {τ : Type} [Endpoint τ]

/-- Makes a call whose statuses become faults. -/
def consult (call : Call) (refused : Status → Fault) :
    ExceptT Fault (StateM (Connection τ)) call.Reply := do
  match ← (request call : StateM (Connection τ) _) with
  | .ok reply => pure reply
  | .error (.unlinked cause) => throw (.unlinked cause)
  | .error (.status status) => throw (refused status)

def chainId : ExceptT Fault (StateM (Connection τ)) ChainId := do
  match ← consult .nodeInfo .noNodeInfo with
  | none => throw .emptyNodeInfo
  | some text => ExceptT.mk (pure ((ChainId.ofText text).mapError (.badChainId text)))

/-- The height of the latest block. Its sign is dropped. -/
def latestHeight : ExceptT Fault (StateM (Connection τ)) Nat := do
  match ← consult .latestBlock .noLatestBlock with
  | none => throw .emptyLatestBlock
  | some none => throw .noHeader
  | some (some height) => pure height.natAbs

def account (address : String) : ExceptT Fault (StateM (Connection τ)) Account.Record := do
  match ← consult (.account address) (.noAccount address) with
  | none => throw (.emptyAccount address)
  | some typed => ExceptT.mk (pure ((Account.Record.ofTyped typed).mapError .badAccount))

/-- Hands a transaction to the node, which answers before any block holds it. -/
def broadcast (tx : Tx.Signed) : ExceptT Fault (StateM (Connection τ)) Tx.Response := do
  match ← consult (.broadcast tx.encode) .notBroadcast with
  | none => throw .emptyBroadcast
  | some response => pure response

end Connection

end SwapDesk.Node
