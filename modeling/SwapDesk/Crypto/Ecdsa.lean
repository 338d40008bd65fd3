import SwapDesk.Crypto.Hmac
import SwapDesk.Crypto.Secp256k1

/-! Signatures over the curve. The nonce is drawn from the key and the message alone, so
signing is a function, and of the two signatures of a nonce the one with the smaller
second half is given. -/

namespace SwapDesk.Crypto.Ecdsa

open Secp256k1

/-- The generator of nonces: a key and a value that keyed digests drive on. -/
structure Source where
  key : Bytes
  value : Bytes

namespace Source

def stir (source : Source) (mark : UInt8) (seed : Bytes) : Source :=
  let key := hmac .sha256 source.key (source.value ++ mark :: seed)
  ⟨key, hmac .sha256 key source.value⟩

def start (secret digest : Nat) : Source :=
  let seed := bigEndian 32 secret ++ bigEndian 32 (digest % groupOrder)
  let blank : Source := ⟨List.replicate 32 0, List.replicate 32 1⟩
  (blank.stir 0 seed).stir 1 seed

def draw (source : Source) : Nat × Source :=
  let value := hmac .sha256 source.key source.value
  (ofBigEndian value, ⟨source.key, value⟩)

/-- The source after a value that cannot serve. -/
def skip (source : Source) : Source := source.stir 0 []

end Source

/-- The signature that a nonce gives, if it gives one. -/
def withNonce? (secret digest nonce : Nat) : Option (Nat × Nat) := do
  if nonce = 0 ∨ groupOrder ≤ nonce then none
  else
    let point ← multiple? nonce
    let r := point.x % groupOrder
    let s := inverse groupOrder nonce * ((digest + r * secret) % groupOrder) % groupOrder
    if r = 0 ∨ s = 0 then none
    else some (r, if groupOrder / 2 < s then groupOrder - s else s)

/-- Tries the values of a source, at most `tries` of them. -/
def search (secret digest : Nat) : (tries : Nat) → Source → Option (Nat × Nat)
  | 0, _ => none
  | tries + 1, source =>
    let (nonce, source) := source.draw
    match withNonce? secret digest nonce with
    | some signature => some signature
    | none => search secret digest tries source.skip

/-- Signs a message with a secret number, giving both halves of the signature. A nonce fails
with probability 2⁻¹²⁸, so the bound on the tries is never met. -/
def sign? (secret : Nat) (message : Bytes) : Option Bytes := do
  let digest := ofBigEndian (sha256 message)
  let (r, s) ← search secret digest 64 (Source.start secret digest)
  some (bigEndian 32 r ++ bigEndian 32 s)

end SwapDesk.Crypto.Ecdsa
