import SwapDesk.Crypto.Sha2

/-! Keyed digests, and keys stretched out of passwords. -/

namespace SwapDesk.Crypto

structure Hash where
  digest : Bytes → Bytes
  blockBytes : Nat

def Hash.sha256 : Hash := ⟨Crypto.sha256, 64⟩

def Hash.sha512 : Hash := ⟨Crypto.sha512, 128⟩

/-- The digest of a message under a key. A key longer than a block is digested first. -/
def hmac (hash : Hash) (key message : Bytes) : Bytes :=
  let short := if hash.blockBytes < key.length then hash.digest key else key
  let padded := short ++ List.replicate (hash.blockBytes - short.length) 0
  hash.digest (padded.map (· ^^^ 0x5c) ++ hash.digest (padded.map (· ^^^ 0x36) ++ message))

/-- One block of the key stretched out of a password and a salt: the sum of a chain of
keyed digests, one for each round. -/
def stretch (hash : Hash) (rounds : Nat) (password salt : Bytes) : Bytes :=
  let first := hmac hash password (salt ++ bigEndian 4 1)
  ((List.range (rounds - 1)).foldl (fun (link, total) _ =>
    let link := hmac hash password link
    (link, List.zipWith (· ^^^ ·) total link)) (first, first)).2

end SwapDesk.Crypto
