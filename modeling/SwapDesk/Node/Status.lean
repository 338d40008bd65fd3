import SwapDesk.Text.Quoted

/-! How a remote call can end when it gives no response. -/

namespace SwapDesk.Node

inductive Code where
  | ok
  | cancelled
  | unknown
  | invalidArgument
  | deadlineExceeded
  | notFound
  | alreadyExists
  | permissionDenied
  | resourceExhausted
  | failedPrecondition
  | aborted
  | outOfRange
  | unimplemented
  | internal
  | unavailable
  | dataLoss
  | unauthenticated
  deriving DecidableEq

namespace Code

def all : List Code :=
  [.ok, .cancelled, .unknown, .invalidArgument, .deadlineExceeded, .notFound, .alreadyExists,
   .permissionDenied, .resourceExhausted, .failedPrecondition, .aborted, .outOfRange,
   .unimplemented, .internal, .unavailable, .dataLoss, .unauthenticated]

/-- A number that no code has means an unknown error. -/
def ofNumber : Int → Code
  | .ofNat number => all.getD number .unknown
  | .negSucc _ => .unknown

def title : Code → String
  | .ok => "Ok"
  | .cancelled => "Cancelled"
  | .unknown => "Unknown"
  | .invalidArgument => "InvalidArgument"
  | .deadlineExceeded => "DeadlineExceeded"
  | .notFound => "NotFound"
  | .alreadyExists => "AlreadyExists"
  | .permissionDenied => "PermissionDenied"
  | .resourceExhausted => "ResourceExhausted"
  | .failedPrecondition => "FailedPrecondition"
  | .aborted => "Aborted"
  | .outOfRange => "OutOfRange"
  | .unimplemented => "Unimplemented"
  | .internal => "Internal"
  | .unavailable => "Unavailable"
  | .dataLoss => "DataLoss"
  | .unauthenticated => "Unauthenticated"

/-- Whether the connection itself failed, rather than the node or a contract refusing. -/
def isTransport : Code → Bool
  | .unavailable | .deadlineExceeded | .cancelled | .aborted | .resourceExhausted => true
  | _ => false

end Code

/-- A code with its message and the headers that came along. -/
structure Status where
  code : Code
  message : String
  headers : List (String × String) := []
  deriving DecidableEq

def Status.text (status : Status) : String :=
  let headers := status.headers.map fun (name, value) =>
    Text.quoted name ++ ": " ++ Text.quoted value
  "status: " ++ status.code.title ++ ", message: " ++ Text.quoted status.message ++
    ", details: [], metadata: MetadataMap \x7b headers: \x7b" ++ ", ".intercalate headers ++ "\x7d \x7d"

end SwapDesk.Node
