import SwapDesk.Bytes

/-! Numbers as rows of bytes, and messages cut into pieces for a digest. -/

namespace SwapDesk.Crypto

/-- The lowest bytes of a number, highest of them first. -/
def bigEndian (count value : Nat) : Bytes :=
  (List.range count).reverse.map fun place => UInt8.ofNat (value >>> (8 * place))

def ofBigEndian (bytes : Bytes) : Nat := bytes.foldl (fun total byte => total * 256 + byte.toNat) 0

def littleEndian (count value : Nat) : Bytes := (bigEndian count value).reverse

def ofLittleEndian (bytes : Bytes) : Nat := ofBigEndian bytes.reverse

/-- Pieces of equal length; the last one may be shorter. -/
def groups (size : Nat) (bytes : Bytes) : List Bytes :=
  if size = 0 ∨ bytes.isEmpty then [] else bytes.take size :: groups size (bytes.drop size)
termination_by bytes.length
decreasing_by cases bytes <;> simp_all; omega

/-- A message with the mark of its end, zeros, and its length in `tail`, which takes the
last `room` bytes of a block. -/
def padTo (block room : Nat) (tail message : Bytes) : Bytes :=
  let zeros := (2 * block - 1 - room - message.length % block) % block
  message ++ 0x80 :: List.replicate zeros 0 ++ tail

end SwapDesk.Crypto
