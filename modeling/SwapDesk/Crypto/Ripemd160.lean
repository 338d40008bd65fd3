import SwapDesk.Crypto.Octets

/-! The RIPEMD-160 digest. Two lines of eighty rounds read each block in different orders,
and their results are added crosswise. -/

namespace SwapDesk.Crypto.Ripemd160

structure State where
  a : UInt32
  b : UInt32
  c : UInt32
  d : UInt32
  e : UInt32

def initial : State := ⟨0x67452301, 0xefcdab89, 0x98badcfe, 0x10325476, 0xc3d2e1f0⟩

def rotate (word count : UInt32) : UInt32 := (word <<< count) ||| (word >>> (32 - count))

/-- The five ways to combine three words. -/
def combine (way : Nat) (x y z : UInt32) : UInt32 :=
  match way with
  | 0 => x ^^^ y ^^^ z
  | 1 => (x &&& y) ||| (~~~x &&& z)
  | 2 => (x ||| ~~~y) ^^^ z
  | 3 => (x &&& z) ||| (y &&& ~~~z)
  | _ => x ^^^ (y ||| ~~~z)

/-- The orders in which a line reads the words of a block, the rotations it applies, and the
constants it adds, sixteen rounds to a constant. -/
structure Line where
  order : List Nat
  rotations : List UInt32
  constants : List UInt32
  ways : List Nat

def left : Line where
  order :=
    [0, 1, 2, 3, 4, 5, 6, 7, 8, 9, 10, 11, 12, 13, 14, 15,
     7, 4, 13, 1, 10, 6, 15, 3, 12, 0, 9, 5, 2, 14, 11, 8,
     3, 10, 14, 4, 9, 15, 8, 1, 2, 7, 0, 6, 13, 11, 5, 12,
     1, 9, 11, 10, 0, 8, 12, 4, 13, 3, 7, 15, 14, 5, 6, 2,
     4, 0, 5, 9, 7, 12, 2, 10, 14, 1, 3, 8, 11, 6, 15, 13]
  rotations :=
    [11, 14, 15, 12, 5, 8, 7, 9, 11, 13, 14, 15, 6, 7, 9, 8,
     7, 6, 8, 13, 11, 9, 7, 15, 7, 12, 15, 9, 11, 7, 13, 12,
     11, 13, 6, 7, 14, 9, 13, 15, 14, 8, 13, 6, 5, 12, 7, 5,
     11, 12, 14, 15, 14, 15, 9, 8, 9, 14, 5, 6, 8, 6, 5, 12,
     9, 15, 5, 11, 6, 8, 13, 12, 5, 12, 13, 14, 11, 8, 5, 6]
  constants := [0x00000000, 0x5a827999, 0x6ed9eba1, 0x8f1bbcdc, 0xa953fd4e]
  ways := [0, 1, 2, 3, 4]

def right : Line where
  order :=
    [5, 14, 7, 0, 9, 2, 11, 4, 13, 6, 15, 8, 1, 10, 3, 12,
     6, 11, 3, 7, 0, 13, 5, 10, 14, 15, 8, 12, 4, 9, 1, 2,
     15, 5, 1, 3, 7, 14, 6, 9, 11, 8, 12, 2, 10, 0, 4, 13,
     8, 6, 4, 1, 3, 11, 15, 0, 5, 12, 2, 13, 9, 7, 10, 14,
     12, 15, 10, 4, 1, 5, 8, 7, 6, 2, 13, 14, 0, 3, 9, 11]
  rotations :=
    [8, 9, 9, 11, 13, 15, 15, 5, 7, 7, 8, 11, 14, 14, 12, 6,
     9, 13, 15, 7, 12, 8, 9, 11, 7, 7, 12, 7, 6, 15, 13, 11,
     9, 7, 15, 11, 8, 6, 6, 14, 12, 13, 5, 14, 13, 13, 7, 5,
     15, 5, 8, 11, 14, 14, 6, 14, 6, 9, 12, 9, 12, 5, 15, 8,
     8, 5, 12, 9, 12, 5, 14, 6, 8, 13, 6, 5, 15, 13, 11, 11]
  constants := [0x50a28be6, 0x5c4dd124, 0x6d703ef3, 0x7a6d76e9, 0x00000000]
  ways := [4, 3, 2, 1, 0]

def run (line : Line) (block : Array UInt32) (start : State) : State :=
  (line.order.zip line.rotations).zipIdx.foldl (fun s ((place, rotation), index) =>
    let mixed := combine (line.ways.getD (index / 16) 0) s.b s.c s.d
    let sum := s.a + mixed + block.getD place 0 + line.constants.getD (index / 16) 0
    ⟨s.e, rotate sum rotation + s.e, s.b, rotate s.c 10, s.d⟩) start

def compress (s : State) (block : List UInt32) : State :=
  let words := block.toArray
  let l := run left words s
  let r := run right words s
  ⟨s.b + l.c + r.d, s.c + l.d + r.e, s.d + l.e + r.a, s.e + l.a + r.b, s.a + l.b + r.c⟩

end Ripemd160

def ripemd160 (message : Bytes) : Bytes :=
  let padded := padTo 64 8 (littleEndian 8 (8 * message.length)) message
  let words := fun block => (groups 4 block).map fun group => UInt32.ofNat (ofLittleEndian group)
  let s := (groups 64 padded).foldl (fun s block => Ripemd160.compress s (words block))
    Ripemd160.initial
  [s.a, s.b, s.c, s.d, s.e].flatMap fun word => littleEndian 4 word.toNat

end SwapDesk.Crypto
