import SwapDesk.Crypto.Ecdsa
import SwapDesk.Key.Mnemonic
import SwapDesk.Key.Path
import SwapDesk.Text.Quoted
import SwapDesk.Trail

/-! Signing keys and their derivation from a mnemonic phrase. -/

namespace SwapDesk.Key

open Crypto

structure Signing where
  secret : Nat
  point : Secp256k1.Point
  belongs : Secp256k1.multiple? secret = some point

namespace Signing

def ofSecret? (secret : Nat) : Option Signing :=
  match belongs : Secp256k1.multiple? secret with
  | some point => some ⟨secret, point, belongs⟩
  | none => none

def publicKey (key : Signing) : Bytes := key.point.compressed

end Signing

inductive DeriveFault where
  | tooDeep
  | noKey
  deriving DecidableEq

def DeriveFault.message : DeriveFault → String
  | .tooDeep => "maximum derivation depth exceeded"
  | .noKey => "cryptographic error"

/-- A key in the tree of keys: its depth and the code that its children depend on. -/
structure Extended where
  key : Signing
  chainCode : Bytes
  depth : Nat

namespace Extended

/-- The key that half of a digest gives, moved on by `shift`. -/
private def ofImage (image : Bytes) (shift depth : Nat) : Except DeriveFault Extended :=
  let tweak := ofBigEndian (image.take 32)
  if Secp256k1.groupOrder ≤ tweak then .error .noKey
  else match Signing.ofSecret? ((tweak + shift) % Secp256k1.groupOrder) with
    | some key => .ok ⟨key, image.drop 32, depth⟩
    | none => .error .noKey

def master (seed : Bytes) : Except DeriveFault Extended :=
  ofImage (hmac .sha512 (Text.bytes "Bitcoin seed") seed) 0 0

def child (parent : Extended) (step : Step) : Except DeriveFault Extended :=
  if 255 ≤ parent.depth then .error .tooDeep
  else
    let origin := if step.hardened then 0 :: bigEndian 32 parent.key.secret
      else parent.key.publicKey
    ofImage (hmac .sha512 parent.chainCode (origin ++ bigEndian 4 step.number))
      parent.key.secret (parent.depth + 1)

end Extended

def defaultPath : String := "m/44'/118'/0'/0/0"

inductive Error where
  | badPath (text : String) (cause : PathFault)
  | badMnemonic
  | underivable (cause : DeriveFault)

def Error.trail : Error → Trail
  | .badPath text cause =>
    ⟨"Failed to parse key derivation path " ++ Text.quoted text ++ "!", [cause.message]⟩
  | .badMnemonic => ⟨"Failed to parse mnemonic!", ["bip39 error"]⟩
  | .underivable cause => ⟨"Failed to derive signing key!", [cause.message]⟩

def derive (seed : Bytes) (path : Path) : Except DeriveFault Signing := do
  let master ← Extended.master seed
  let last ← path.foldlM Extended.child master
  pure last.key

/-- The key of a phrase and a password. The path is read before the phrase. -/
def ofMnemonic (phrase password path : String) : Except Error Signing := do
  let steps ← (Path.ofText path).mapError (.badPath path)
  match Mnemonic.ofPhrase? phrase with
  | none => .error .badMnemonic
  | some mnemonic => (derive (mnemonic.seed password) steps).mapError .underivable

end SwapDesk.Key
