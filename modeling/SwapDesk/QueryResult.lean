import SwapDesk.Node.Smart
import SwapDesk.Wire.Basic

/-! Outcomes of queries. A query never stops a program: whatever goes wrong becomes an absent
response with the reason for it. -/

namespace SwapDesk

/-- Where a query failed: on the way to the node, in reading the answer, or at the node or the
contract. -/
inductive FailureKind where
  | transport
  | decode
  | rejected
  deriving DecidableEq

namespace FailureKind

def name : FailureKind → String
  | .transport => "transport"
  | .decode => "decode"
  | .rejected => "rejected"

def title : FailureKind → String
  | .transport => "Transport"
  | .decode => "Decode"
  | .rejected => "Rejected"

def all : List FailureKind := [.transport, .decode, .rejected]

end FailureKind

structure QueryFailure where
  kind : FailureKind
  reason : String
  deriving DecidableEq

namespace QueryFailure

def message (failure : QueryFailure) : String :=
  "Query failed (" ++ failure.kind.name ++ ")! Cause: " ++ failure.reason

def ofFault (fault : Wire.Fault) : QueryFailure := ⟨.decode, fault.message⟩

def ofSmartFault (fault : Node.SmartFault) : QueryFailure :=
  match fault with
  | .connection _ | .transport _ => ⟨.transport, fault.message⟩
  | .rejected _ => ⟨.rejected, fault.message⟩

def describe (failure : QueryFailure) : String :=
  Text.describedRecord "QueryFailure"
    [("kind", failure.kind.title), ("reason", Text.quoted failure.reason)]

end QueryFailure

inductive QueryResult (α : Type) where
  | response (value : α)
  | absent (failure : QueryFailure)

namespace QueryResult

variable {α β : Type}

def response? : QueryResult α → Option α
  | .response value => some value
  | .absent _ => none

def failure? : QueryResult α → Option QueryFailure
  | .response _ => none
  | .absent failure => some failure

def isAbsent (result : QueryResult α) : Bool := result.failure?.isSome

def map (f : α → β) : QueryResult α → QueryResult β
  | .response value => .response (f value)
  | .absent failure => .absent failure

def ofExcept : Except QueryFailure α → QueryResult α
  | .ok value => .response value
  | .error failure => .absent failure

def describe (describeValue : α → String) : QueryResult α → String
  | .response value => Text.describedWrap "Response" (describeValue value)
  | .absent failure => Text.describedWrap "Absent" failure.describe

def read [Wire α] (answer : Except QueryFailure Bytes) : QueryResult α :=
  ofExcept (answer.bind fun bytes => (Wire.decode bytes).mapError .ofFault)

end QueryResult

end SwapDesk
