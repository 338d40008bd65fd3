import SwapDesk.Node.Call
import SwapDesk.Trail

/-! The one connection that everything sent to a node goes through. A failure of the transport
marks it as broken, and whoever calls next makes a new link before anything is sent. -/

namespace SwapDesk.Node

/-- What is kept of a connection between calls. -/
structure Line (τ : Type) [Endpoint τ] where
  uri : Uri
  link : Endpoint.Link τ
  isBroken : Bool := false

structure Connection (τ : Type) [Endpoint τ] where
  line : Line τ
  remote : τ

inductive ConnectFault where
  | badUri (text : String) (cause : Uri.Fault)
  | noServerName
  | noLink (cause : DialFault)

def ConnectFault.trail : ConnectFault → Trail
  | .badUri text cause => ⟨"Failed to parse gRPC URI " ++ Text.quoted text ++ "!", [cause.message]⟩
  | .noServerName =>
    ⟨"Failed to configure TLS for node's gRPC endpoint!", ["transport error", "invalid dns name"]⟩
  | .noLink cause => ⟨"Failed to connect to node's gRPC endpoint!", cause.causes⟩

/-- Why a call has no response: no link, or a status in place of the response. -/
inductive CallFault where
  | unlinked (cause : DialFault)
  | status (status : Status)

def DialFault.trail (fault : DialFault) : Trail :=
  ⟨"Failed to reconnect to node's gRPC endpoint!", fault.causes⟩

/-- Whether a link to the address is encrypted: only plain HTTP is not. -/
def Uri.isEncrypted (uri : Uri) : Bool := uri.scheme ≠ some "http"

/-- Whether the far end's certificate can be checked against the address. -/
def Uri.isVerifiable (uri : Uri) : Bool :=
  match uri.host? with
  | some host => isServerName host
  | none => false

variable {τ : Type} [Endpoint τ]

def connect (text : String) : ExceptT ConnectFault (StateM τ) (Line τ) :=
  match Uri.ofText text with
  | .error cause => throw (.badUri text cause)
  | .ok uri =>
    if uri.isEncrypted && !uri.isVerifiable then throw .noServerName
    else do
      match ← (Endpoint.dial uri : StateM τ _) with
      | .error cause => throw (.noLink cause)
      | .ok link => pure { uri, link }

namespace Connection

def atRemote {α : Type} (action : StateM τ α) : StateM (Connection τ) α := fun connection =>
  let (value, remote) := action connection.remote
  (value, { connection with remote })

/-- Makes a new link if the line is broken. If that fails the line stays broken. -/
def repair : StateM (Connection τ) (Except DialFault Unit) := do
  let connection ← get
  if connection.line.isBroken then
    match ← atRemote (Endpoint.dial connection.line.uri) with
    | .error cause => pure (.error cause)
    | .ok link =>
      modify fun connection =>
        { connection with line := { connection.line with link, isBroken := false } }
      pure (.ok ())
  else pure (.ok ())

/-- Marks the line as broken if the status speaks of the transport. -/
def observe (status : Status) : StateM (Connection τ) Unit :=
  if status.code.isTransport then
    modify fun connection => { connection with line := { connection.line with isBroken := true } }
  else pure ()

/-- Makes a call: repairs the line, sends the call once and observes how it ends. -/
def request (call : Call) : StateM (Connection τ) (Except CallFault call.Reply) := do
  match ← repair with
  | .error cause => pure (.error (.unlinked cause))
  | .ok () =>
    let connection ← get
    match ← atRemote (Endpoint.send connection.line.link call) with
    | .ok reply => pure (.ok reply)
    | .error status =>
      observe status
      pure (.error (.status status))

end Connection

end SwapDesk.Node
