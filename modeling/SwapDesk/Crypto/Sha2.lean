import SwapDesk.Crypto.Octets

/-! The SHA-2 digests. The digests of 256 and of 512 bits are one construction over words
of two widths; what differs is in their variants. -/

namespace SwapDesk.Crypto.Sha2

/-- Machine words that can be rotated to the right. -/
class Word (w : Type) extends Add w, AndOp w, XorOp w, Complement w, ShiftRight w where
  rotate : w → w → w
  ofNat : Nat → w
  toNat : w → Nat

instance : Word UInt32 where
  rotate word count := (word >>> count) ||| (word <<< (32 - count))
  ofNat := UInt32.ofNat
  toNat := UInt32.toNat

instance : Word UInt64 where
  rotate word count := (word >>> count) ||| (word <<< (64 - count))
  ofNat := UInt64.ofNat
  toNat := UInt64.toNat

structure State (w : Type) where
  a : w
  b : w
  c : w
  d : w
  e : w
  f : w
  g : w
  h : w

/-- How a digest stirs its words: the rotations of its four sums, the last one of the two
small sums being a shift. -/
structure Variant (w : Type) where
  wordBytes : Nat
  constants : List w
  initial : State w
  turnA : w × w × w
  turnE : w × w × w
  spreadFar : w × w × w
  spreadNear : w × w × w

variable {w : Type} [Word w]

@[inline] def turn (counts : w × w × w) (word : w) : w :=
  Word.rotate word counts.1 ^^^ Word.rotate word counts.2.1 ^^^ Word.rotate word counts.2.2

@[inline] def spread (counts : w × w × w) (word : w) : w :=
  Word.rotate word counts.1 ^^^ Word.rotate word counts.2.1 ^^^ (word >>> counts.2.2)

/-- The words of a block and the ones that grow out of them, one for each round. -/
@[specialize] def schedule (variant : Variant w) (block : List w) : List w :=
  let zero := Word.ofNat 0
  let grown := (List.range (variant.constants.length - 16)).foldl (fun (words : Array w) index =>
    words.push (spread variant.spreadNear (words.getD (index + 14) zero) +
      words.getD (index + 9) zero +
      spread variant.spreadFar (words.getD (index + 1) zero) +
      words.getD index zero)) block.toArray
  grown.toList

@[specialize] def round (variant : Variant w) (s : State w) (constant word : w) : State w :=
  let chosen := (s.e &&& s.f) ^^^ (~~~s.e &&& s.g)
  let first := s.h + turn variant.turnE s.e + chosen + constant + word
  let majority := (s.a &&& s.b) ^^^ (s.a &&& s.c) ^^^ (s.b &&& s.c)
  ⟨first + turn variant.turnA s.a + majority, s.a, s.b, s.c, s.d + first, s.e, s.f, s.g⟩

@[specialize] def compress (variant : Variant w) (s : State w) (block : List w) : State w :=
  let t := (variant.constants.zip (schedule variant block)).foldl
    (fun t (constant, word) => round variant t constant word) s
  ⟨s.a + t.a, s.b + t.b, s.c + t.c, s.d + t.d, s.e + t.e, s.f + t.f, s.g + t.g, s.h + t.h⟩

@[specialize] def absorb (variant : Variant w) (s : State w) (words : List w) : State w :=
  if words.isEmpty then s else absorb variant (compress variant s (words.take 16)) (words.drop 16)
termination_by words.length
decreasing_by
  cases words with
  | nil => contradiction
  | cons => simp only [List.length_drop, List.length_cons]; omega

@[specialize] def digest (variant : Variant w) (message : Bytes) : Bytes :=
  let size := variant.wordBytes
  let padded := padTo (16 * size) (2 * size) (bigEndian (2 * size) (8 * message.length)) message
  let words := (groups size padded).map fun group => Word.ofNat (ofBigEndian group)
  let s := absorb variant variant.initial words
  [s.a, s.b, s.c, s.d, s.e, s.f, s.g, s.h].flatMap fun word => bigEndian size (Word.toNat word)

end Sha2

def sha256Variant : Sha2.Variant UInt32 where
  wordBytes := 4
  constants :=
    [0x428a2f98, 0x71374491, 0xb5c0fbcf, 0xe9b5dba5, 0x3956c25b, 0x59f111f1, 0x923f82a4, 0xab1c5ed5,
     0xd807aa98, 0x12835b01, 0x243185be, 0x550c7dc3, 0x72be5d74, 0x80deb1fe, 0x9bdc06a7, 0xc19bf174,
     0xe49b69c1, 0xefbe4786, 0x0fc19dc6, 0x240ca1cc, 0x2de92c6f, 0x4a7484aa, 0x5cb0a9dc, 0x76f988da,
     0x983e5152, 0xa831c66d, 0xb00327c8, 0xbf597fc7, 0xc6e00bf3, 0xd5a79147, 0x06ca6351, 0x14292967,
     0x27b70a85, 0x2e1b2138, 0x4d2c6dfc, 0x53380d13, 0x650a7354, 0x766a0abb, 0x81c2c92e, 0x92722c85,
     0xa2bfe8a1, 0xa81a664b, 0xc24b8b70, 0xc76c51a3, 0xd192e819, 0xd6990624, 0xf40e3585, 0x106aa070,
     0x19a4c116, 0x1e376c08, 0x2748774c, 0x34b0bcb5, 0x391c0cb3, 0x4ed8aa4a, 0x5b9cca4f, 0x682e6ff3,
     0x748f82ee, 0x78a5636f, 0x84c87814, 0x8cc70208, 0x90befffa, 0xa4506ceb, 0xbef9a3f7, 0xc67178f2]
  initial :=
    ⟨0x6a09e667, 0xbb67ae85, 0x3c6ef372, 0xa54ff53a,
     0x510e527f, 0x9b05688c, 0x1f83d9ab, 0x5be0cd19⟩
  turnA := (2, 13, 22)
  turnE := (6, 11, 25)
  spreadFar := (7, 18, 3)
  spreadNear := (17, 19, 10)

def sha512Variant : Sha2.Variant UInt64 where
  wordBytes := 8
  constants :=
    [0x428a2f98d728ae22, 0x7137449123ef65cd, 0xb5c0fbcfec4d3b2f, 0xe9b5dba58189dbbc,
     0x3956c25bf348b538, 0x59f111f1b605d019, 0x923f82a4af194f9b, 0xab1c5ed5da6d8118,
     0xd807aa98a3030242, 0x12835b0145706fbe, 0x243185be4ee4b28c, 0x550c7dc3d5ffb4e2,
     0x72be5d74f27b896f, 0x80deb1fe3b1696b1, 0x9bdc06a725c71235, 0xc19bf174cf692694,
     0xe49b69c19ef14ad2, 0xefbe4786384f25e3, 0x0fc19dc68b8cd5b5, 0x240ca1cc77ac9c65,
     0x2de92c6f592b0275, 0x4a7484aa6ea6e483, 0x5cb0a9dcbd41fbd4, 0x76f988da831153b5,
     0x983e5152ee66dfab, 0xa831c66d2db43210, 0xb00327c898fb213f, 0xbf597fc7beef0ee4,
     0xc6e00bf33da88fc2, 0xd5a79147930aa725, 0x06ca6351e003826f, 0x142929670a0e6e70,
     0x27b70a8546d22ffc, 0x2e1b21385c26c926, 0x4d2c6dfc5ac42aed, 0x53380d139d95b3df,
     0x650a73548baf63de, 0x766a0abb3c77b2a8, 0x81c2c92e47edaee6, 0x92722c851482353b,
     0xa2bfe8a14cf10364, 0xa81a664bbc423001, 0xc24b8b70d0f89791, 0xc76c51a30654be30,
     0xd192e819d6ef5218, 0xd69906245565a910, 0xf40e35855771202a, 0x106aa07032bbd1b8,
     0x19a4c116b8d2d0c8, 0x1e376c085141ab53, 0x2748774cdf8eeb99, 0x34b0bcb5e19b48a8,
     0x391c0cb3c5c95a63, 0x4ed8aa4ae3418acb, 0x5b9cca4f7763e373, 0x682e6ff3d6b2b8a3,
     0x748f82ee5defb2fc, 0x78a5636f43172f60, 0x84c87814a1f0ab72, 0x8cc702081a6439ec,
     0x90befffa23631e28, 0xa4506cebde82bde9, 0xbef9a3f7b2c67915, 0xc67178f2e372532b,
     0xca273eceea26619c, 0xd186b8c721c0c207, 0xeada7dd6cde0eb1e, 0xf57d4f7fee6ed178,
     0x06f067aa72176fba, 0x0a637dc5a2c898a6, 0x113f9804bef90dae, 0x1b710b35131c471b,
     0x28db77f523047d84, 0x32caab7b40c72493, 0x3c9ebe0a15c9bebc, 0x431d67c49c100d4c,
     0x4cc5d4becb3e42b6, 0x597f299cfc657e2a, 0x5fcb6fab3ad6faec, 0x6c44198c4a475817]
  initial :=
    ⟨0x6a09e667f3bcc908, 0xbb67ae8584caa73b, 0x3c6ef372fe94f82b, 0xa54ff53a5f1d36f1,
     0x510e527fade682d1, 0x9b05688c2b3e6c1f, 0x1f83d9abfb41bd6b, 0x5be0cd19137e2179⟩
  turnA := (28, 34, 39)
  turnE := (14, 18, 41)
  spreadFar := (1, 8, 7)
  spreadNear := (19, 61, 6)

def sha256 (message : Bytes) : Bytes := Sha2.digest sha256Variant message

def sha512 (message : Bytes) : Bytes := Sha2.digest sha512Variant message

end SwapDesk.Crypto
