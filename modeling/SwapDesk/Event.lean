import SwapDesk.Contract.PoolKind
import SwapDesk.QueryResult
import SwapDesk.Node.Call

/-! What is logged. An event is named for what happened; its level, the part of the program
that speaks, its message and its fields follow from that. -/

namespace SwapDesk

inductive Event where
  | queryAnswered (contract operation : String)
  | queryUnanswered (contract operation : String) (failure : QueryFailure)
  | accepted (contract operation : String) (response : Tx.Response)
  | refused (contract operation : String) (response : Tx.Response)
  | accountLoaded (address : String) (number sequence : UInt64)
  | sequenceAdvanced (sequence : UInt64)
  | connecting (network chainId endpoint restEndpoint : String)
  | walletReady (address : String) (height : Nat)
  | probing (pool : String) (id : UInt64) (kind : PoolKind) (address : String)
  | idMatches (pool : String) (id : Amount)
  | idDiffers (pool : String) (reported : Amount) (configured : UInt64)
  | answered (subject operation response : String)
  | unanswered (subject operation : String) (failure : QueryFailure)
  | finished

namespace Event

inductive Level where
  | debug
  | info
  | warn
  deriving DecidableEq

def Level.name : Level → String
  | .debug => "DEBUG"
  | .info => "INFO"
  | .warn => "WARN"

/-- The value of a field: text, text that stands for a value of another kind, or a number. -/
inductive Value where
  | text (content : String)
  | shown (content : String)
  | number (count : Nat)
  deriving DecidableEq

def Value.inLine : Value → String
  | .text content => Text.quoted content
  | .shown content => content
  | .number count => count.repr

def Value.json : Value → Json
  | .text content => .text content
  | .shown content => .text content
  | .number count => .number count

def level : Event → Level
  | .queryAnswered .. | .accountLoaded .. | .sequenceAdvanced _ => .debug
  | .queryUnanswered .. | .refused .. | .idDiffers .. | .unanswered .. => .warn
  | _ => .info

def target : Event → String
  | .queryAnswered .. | .queryUnanswered .. => "query"
  | .accepted .. | .refused .. => "execute"
  | .accountLoaded .. | .sequenceAdvanced _ => "signer"
  | _ => "probe"

def message : Event → String
  | .queryAnswered .. | .answered .. => "Query answered."
  | .queryUnanswered .. => "Query returned no result."
  | .accepted .. => "Transaction accepted by node."
  | .refused .. => "Transaction refused by node."
  | .accountLoaded .. => "Loaded signer's account."
  | .sequenceAdvanced _ => "Sequence number advanced."
  | .connecting .. => "Connecting to node."
  | .walletReady .. => "Wallet ready."
  | .probing .. => "Probing pool."
  | .idMatches .. => "Pool ID matches configuration."
  | .idDiffers .. => "Pool reports a different ID than configured!"
  | .unanswered .. => "No result."
  | .finished => "Probe finished."

def failureFields (failure : QueryFailure) : List (String × Value) :=
  [("kind", .shown failure.kind.name), ("reason", .text failure.reason)]

def fields : Event → List (String × Value)
  | .queryAnswered contract operation => [("contract", .text contract), ("operation", .text operation)]
  | .queryUnanswered contract operation failure =>
    [("contract", .text contract), ("operation", .text operation)] ++ failureFields failure
  | .accepted contract operation response =>
    [("contract", .text contract), ("operation", .text operation), ("hash", .shown response.hash)]
  | .refused contract operation response =>
    [("contract", .text contract), ("operation", .text operation), ("hash", .shown response.hash),
     ("code", .number response.code.toNat), ("log", .shown response.log)]
  | .accountLoaded address number sequence =>
    [("address", .shown address), ("account_number", .number number.toNat),
     ("sequence_number", .number sequence.toNat)]
  | .sequenceAdvanced sequence => [("sequence_number", .number sequence.toNat)]
  | .connecting network chainId endpoint restEndpoint =>
    [("network", .text network), ("chain_id", .text chainId), ("endpoint", .text endpoint),
     ("rest_endpoint", .text restEndpoint)]
  | .walletReady address height => [("address", .text address), ("height", .number height)]
  | .probing pool id kind address =>
    [("pool", .text pool), ("id", .number id.toNat), ("kind", .shown kind.name),
     ("address", .text address)]
  | .idMatches pool id => [("pool", .text pool), ("id", .shown id.text)]
  | .idDiffers pool reported configured =>
    [("pool", .text pool), ("reported", .shown reported.text),
     ("configured", .number configured.toNat)]
  | .answered subject operation response =>
    [("subject", .text subject), ("operation", .text operation), ("response", .shown response)]
  | .unanswered subject operation failure =>
    [("subject", .text subject), ("operation", .text operation)] ++ failureFields failure
  | .finished => []

/-- The event in one line: its level in five columns, its target, its message and its fields. -/
def line (event : Event) : String :=
  let level := event.level.name
  String.ofList (List.replicate (5 - level.length) ' ') ++ level ++ " " ++ event.target ++ ": " ++
    event.message ++
    String.join (event.fields.map fun (name, value) => " " ++ name ++ "=" ++ value.inLine)

/-- The event as JSON. Its message stands first among its fields. -/
def json (event : Event) : Json :=
  .object
    [("level", .text event.level.name),
     ("fields", .object (("message", .text event.message) ::
       event.fields.map fun (name, value) => (name, value.json))),
     ("target", .text event.target)]

end Event

end SwapDesk
