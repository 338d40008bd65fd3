import SwapDesk.Protobuf.Reader
import SwapDesk.Tx.Body

/-! Transactions with signatures. What is signed is a document: the transaction together with
the chain and the account that it is meant for. -/

namespace SwapDesk.Tx

/-- Who signs: the public key as it travels, and how many transactions of the account came
before. -/
structure Author where
  publicKey : Protobuf.Typed
  sequence : UInt64

/-- The number of the mode in which the author signs the bytes that are sent. -/
def directMode : Nat := 1

def Author.encode (author : Author) : Bytes :=
  Protobuf.message 1 author.publicKey.encode ++
    Protobuf.message 2 (Protobuf.message 1 (Protobuf.number 1 directMode)) ++
    Protobuf.number 3 author.sequence.toNat

structure Document where
  body : Body
  author : Author
  fee : FullFee
  chainId : String
  accountNumber : UInt64

namespace Document

def authInfo (document : Document) : Bytes :=
  Protobuf.message 1 document.author.encode ++ Protobuf.message 2 document.fee.encode

def encode (document : Document) : Bytes :=
  Protobuf.bytes 1 document.body.encode ++ Protobuf.bytes 2 document.authInfo ++
    Protobuf.text 3 document.chainId ++ Protobuf.number 4 document.accountNumber.toNat

end Document

structure Signed where
  body : Bytes := []
  authInfo : Bytes := []
  signatures : List Bytes := []
  deriving DecidableEq

namespace Signed

def encode (tx : Signed) : Bytes :=
  Protobuf.bytes 1 tx.body ++ Protobuf.bytes 2 tx.authInfo ++ Protobuf.repeated 3 id tx.signatures

def merge : Protobuf.Merge Signed := fun field kind tx input =>
  match field with
  | 1 => do
    let body ← (Protobuf.readBytes kind input).mapError (·.inside "TxRaw" "body_bytes")
    pure (body.map fun body => { tx with body })
  | 2 => do
    let authInfo ← (Protobuf.readBytes kind input).mapError (·.inside "TxRaw" "auth_info_bytes")
    pure (authInfo.map fun authInfo => { tx with authInfo })
  | 3 => do
    let signature ← (Protobuf.readBytes kind input).mapError (·.inside "TxRaw" "signatures")
    pure (signature.map fun signature => { tx with signatures := tx.signatures ++ [signature] })
  | _ => do pure ((← Protobuf.skipField Protobuf.levels kind field input).map fun _ => tx)

def decode (input : Bytes) : Except Protobuf.Fault Signed := Protobuf.decode merge {} input

end Signed

end SwapDesk.Tx
