import SwapDesk.Crypto.Secp256k1
import SwapDesk.Protobuf.Reader

/-! Public keys of accounts, wrapped into messages that name their kind. -/

namespace SwapDesk.Account

inductive PublicKey where
  | secp256k1 (point : Crypto.Secp256k1.Point)
  | ed25519 (bytes : Bytes)
  deriving DecidableEq

namespace PublicKey

inductive Fault where
  | undecodable (cause : Protobuf.Fault)
  | noKey
  | unknownType (url : String)
  deriving DecidableEq

def Fault.message : Fault → String
  | .undecodable cause => cause.message
  | .noKey => "cryptographic error"
  | .unknownType url => "invalid type URL for public key: " ++ url

def secp256k1Url : String := "/cosmos.crypto.secp256k1.PubKey"

def ed25519Url : String := "/cosmos.crypto.ed25519.PubKey"

def bytes : PublicKey → Bytes
  | .secp256k1 point => point.compressed
  | .ed25519 bytes => bytes

def typeUrl : PublicKey → String
  | .secp256k1 _ => secp256k1Url
  | .ed25519 _ => ed25519Url

def toTyped (key : PublicKey) : Protobuf.Typed := ⟨key.typeUrl, Protobuf.bytes 1 key.bytes⟩

private def mergeKey : Protobuf.Merge Bytes := fun field kind key input =>
  match field with
  | 1 => (Protobuf.readBytes kind input).mapError (·.inside "PubKey" "key")
  | _ => do pure ((← Protobuf.skipField Protobuf.levels kind field input).map fun _ => key)

private def keyBytes (typed : Protobuf.Typed) : Except Fault Bytes :=
  (Protobuf.decode mergeKey [] typed.content).mapError .undecodable

def ofTyped (typed : Protobuf.Typed) : Except Fault PublicKey :=
  if typed.typeUrl = ed25519Url then do
    let bytes ← keyBytes typed
    if bytes.length = 32 then pure (.ed25519 bytes) else .error .noKey
  else if typed.typeUrl = secp256k1Url then do
    match Crypto.Secp256k1.Point.ofBytes? (← keyBytes typed) with
    | some point => pure (.secp256k1 point)
    | none => .error .noKey
  else .error (.unknownType typed.typeUrl)

end PublicKey

end SwapDesk.Account
