import SwapDesk.Bech32
import SwapDesk.Crypto.Ripemd160
import SwapDesk.Key.Signing

/-! Account addresses. An address is the digest of a public key, written as bech32 behind
the name of its chain. -/

namespace SwapDesk.Account

inductive IdFault where
  | badHrp
  | badLength (count : Nat)
  | notBech32 (text : String)
  deriving DecidableEq

def IdFault.message : IdFault → String
  | .badHrp => "expected prefix to be lowercase alphanumeric characters only"
  | .badLength count =>
    "account ID should be at most 255 bytes long, but was " ++ count.repr ++ " bytes long"
  | .notBech32 text => "invalid bech32: '" ++ text ++ "'"

def isHrp (hrp : String) : Bool := hrp.toList.all fun c => c.isLower || c.isDigit

/-- An address: the name of the chain and the digest of the key. -/
structure Id where
  hrp : String
  bytes : Bytes
  deriving DecidableEq

namespace Id

def make (hrp : String) (bytes : Bytes) : Except IdFault Id :=
  if !isHrp hrp then .error .badHrp
  else if bytes.isEmpty || 255 < bytes.length then .error (.badLength bytes.length)
  else .ok ⟨hrp, bytes⟩

def text (id : Id) : String := Bech32.encode id.hrp id.bytes

def ofText (text : String) : Except IdFault Id :=
  match Bech32.decode? text with
  | none => .error (.notBech32 text)
  | some (hrp, bytes) => make hrp bytes

/-- The address of a public key in compressed form. -/
def ofPublicKey (hrp : String) (publicKey : Bytes) : Except IdFault Id :=
  make hrp (Crypto.ripemd160 (Crypto.sha256 publicKey))

end Id

end SwapDesk.Account
