import SwapDesk.Crypto.Hmac
import SwapDesk.Key.WordList

/-! Mnemonic phrases of 24 words. The words carry 32 bytes of entropy and one byte of its
digest; the phrase itself, as written, is stretched into a seed. -/

namespace SwapDesk.Key

/-- The places of the words of a phrase. One blank stands between two words. -/
def places? (phrase : String) : Option (List Nat) :=
  (phrase.splitOn " ").mapM words.idxOf?

/-- Eleven bits a word, put together to one number. -/
def wordBits (places : List Nat) : Nat := places.foldl (fun total place => total * 2048 + place) 0

/-- Whether a phrase has 24 known words whose last byte is the digest of the others. -/
def isMnemonic (phrase : String) : Bool :=
  match places? phrase with
  | some places =>
    let entropy := Crypto.bigEndian 32 (wordBits places / 256)
    places.length == 24 && (Crypto.sha256 entropy).head? == some (UInt8.ofNat (wordBits places))
  | none => false

structure Mnemonic where
  phrase : String
  valid : isMnemonic phrase = true

namespace Mnemonic

def ofPhrase? (phrase : String) : Option Mnemonic :=
  if valid : isMnemonic phrase = true then some ⟨phrase, valid⟩ else none

def seed (mnemonic : Mnemonic) (password : String) : Bytes :=
  Crypto.stretch .sha512 2048 (Text.bytes mnemonic.phrase) (Text.bytes ("mnemonic" ++ password))

end Mnemonic

end SwapDesk.Key
