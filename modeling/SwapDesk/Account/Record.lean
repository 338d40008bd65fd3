import SwapDesk.Account.Id
import SwapDesk.Account.PublicKey

/-! The record that a chain keeps of an account. -/

namespace SwapDesk.Account

structure Record where
  address : Id
  publicKey : Option PublicKey
  number : UInt64
  sequence : UInt64

namespace Record

/-- A record as it travels, before its parts are understood. -/
structure Raw where
  address : String := ""
  publicKey : Option Protobuf.Typed := none
  number : Nat := 0
  sequence : Nat := 0

def typeUrl : String := "/cosmos.auth.v1beta1.BaseAccount"

def Raw.encode (raw : Raw) : Bytes :=
  Protobuf.text 1 raw.address ++
    (match raw.publicKey with
     | some key => Protobuf.message 2 key.encode
     | none => []) ++
    Protobuf.number 3 raw.number ++ Protobuf.number 4 raw.sequence

def Raw.merge : Protobuf.Merge Raw := fun field kind raw input =>
  match field with
  | 1 => do
    let address ← (Protobuf.readText kind input).mapError (·.inside "BaseAccount" "address")
    pure (address.map fun address => { raw with address })
  | 2 => do
    let key ← (Protobuf.readMessage Protobuf.Typed.merge kind (raw.publicKey.getD ⟨"", []⟩)
      input).mapError (·.inside "BaseAccount" "pub_key")
    pure (key.map fun key => { raw with publicKey := some key })
  | 3 => do
    let number ← (Protobuf.readNumber kind input).mapError (·.inside "BaseAccount" "account_number")
    pure (number.map fun number => { raw with number })
  | 4 => do
    let sequence ← (Protobuf.readNumber kind input).mapError (·.inside "BaseAccount" "sequence")
    pure (sequence.map fun sequence => { raw with sequence })
  | _ => do pure ((← Protobuf.skipField Protobuf.levels kind field input).map fun _ => raw)

inductive Fault where
  | undecodable (cause : Protobuf.Fault)
  | badAddress (cause : IdFault)
  | badKey (cause : PublicKey.Fault)
  deriving DecidableEq

def Fault.trail : Fault → Trail
  | .undecodable cause => ⟨"Failed to decode account data!", [cause.message]⟩
  | .badAddress cause => ⟨"Account data is malformed!", [cause.message]⟩
  | .badKey cause => ⟨"Account data is malformed!", [cause.message]⟩

def ofTyped (typed : Protobuf.Typed) : Except Fault Record := do
  let raw ← (typed.decode typeUrl Raw.merge {}).mapError .undecodable
  let address ← (Id.ofText raw.address).mapError .badAddress
  let publicKey ← raw.publicKey.mapM fun key => (PublicKey.ofTyped key).mapError .badKey
  pure ⟨address, publicKey, UInt64.ofNat raw.number, UInt64.ofNat raw.sequence⟩

end Record

end SwapDesk.Account
