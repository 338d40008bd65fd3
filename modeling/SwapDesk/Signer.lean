import SwapDesk.Event
import SwapDesk.Node.Chain

/-! Signing on behalf of one account. The signer counts its transactions itself: the count is
read from the chain once and moves on by one for each transaction that the node takes in. -/

namespace SwapDesk

structure Signer where
  key : Key.Signing
  address : Account.Id
  accountNumber : UInt64
  feeDenom : String
  chainId : Node.ChainId
  sequence : UInt64

inductive Overflow where
  | addition
  deriving DecidableEq

def Overflow.message : Overflow → String
  | .addition => "attempt to add with overflow"

namespace Signer

inductive LoadFault where
  | chain (cause : Node.Fault)
  | otherChain (actual expected : String)
  | badAddress (hrp : String) (cause : Account.IdFault)
  | account (cause : Node.Fault)

def LoadFault.trail : LoadFault → Trail
  | .chain cause => cause.trail
  | .otherChain actual expected =>
    ⟨"Connected to chain " ++ Text.quoted actual ++ " instead of " ++ Text.quoted expected ++ "!", []⟩
  | .badAddress hrp cause =>
    ⟨"Failed to derive " ++ Text.quoted hrp ++ " address!", [cause.message]⟩
  | .account cause => cause.trail.within "Failed to load signer's account!"

def loaded (signer : Signer) : Event :=
  .accountLoaded signer.address.text signer.accountNumber signer.sequence

/-- Makes sure that the node serves the expected chain and loads the account of the key. -/
def load {τ : Type} [Node.Endpoint τ] (key : Key.Signing) (hrp feeDenom expectedChainId : String) :
    ExceptT LoadFault (StateM (Node.Connection τ)) Signer := do
  let chainId ← Node.Connection.chainId.adapt .chain
  if chainId.text ≠ expectedChainId then throw (.otherChain chainId.text expectedChainId)
  match Account.Id.ofPublicKey hrp key.publicKey with
  | .error cause => throw (.badAddress hrp cause)
  | .ok address =>
    let account ← (Node.Connection.account address.text).adapt .account
    pure { key, address, accountNumber := account.number, feeDenom, chainId,
           sequence := account.sequence }

/-- The document of a transaction with the present count. -/
def document (signer : Signer) (body : Tx.Body) (fee : Tx.Fee) :
    Except Tx.DenomFault Tx.Document := do
  let fee ← fee.inCoin signer.feeDenom
  let publicKey := Account.PublicKey.secp256k1 signer.key.point
  pure { body, author := ⟨publicKey.toTyped, signer.sequence⟩, fee,
         chainId := signer.chainId.text, accountNumber := signer.accountNumber }

inductive SignFault where
  | denom (cause : Tx.DenomFault)
  | noSignature

def SignFault.trail : SignFault → Trail
  | .denom cause => cause.trail
  | .noSignature => ⟨"Failed to sign transaction!", ["cryptographic error"]⟩

/-- Signs a transaction. The count stays as it is. -/
def sign (signer : Signer) (body : Tx.Body) (fee : Tx.Fee) : Except SignFault Tx.Signed := do
  let document ← (signer.document body fee).mapError .denom
  match Crypto.Ecdsa.sign? signer.key.secret document.encode with
  | some signature => pure ⟨document.body.encode, document.authInfo, [signature]⟩
  | none => .error .noSignature

def advance (signer : Signer) : Except Overflow Signer :=
  if signer.sequence = .ofNat (2 ^ 64 - 1) then .error .addition
  else .ok { signer with sequence := signer.sequence + 1 }

end Signer

end SwapDesk
