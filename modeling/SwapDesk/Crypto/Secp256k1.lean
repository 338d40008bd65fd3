import SwapDesk.Crypto.Octets

/-! The curve y² = x³ + 7 over the field of `fieldSize` elements, its group of
`groupOrder` points, and the written forms of a point. -/

namespace SwapDesk.Crypto.Secp256k1

def fieldSize : Nat := 0xfffffffffffffffffffffffffffffffffffffffffffffffffffffffefffffc2f

def groupOrder : Nat := 0xfffffffffffffffffffffffffffffffebaaedce6af48a03bbfd25e8cd0364141

def power (modulus base exponent : Nat) : Nat :=
  if exponent = 0 then 1 % modulus
  else
    let half := power modulus (base * base % modulus) (exponent / 2)
    if exponent % 2 = 1 then base * half % modulus else half
termination_by exponent

def inverse (prime value : Nat) : Nat := power prime value (prime - 2)

/-- A point of the curve other than the neutral one. -/
structure Point where
  x : Nat
  y : Nat
  deriving DecidableEq

def generator : Point where
  x := 0x79be667ef9dcbbac55a06295ce870b07029bfcdb2dce28d959f2815b16f81798
  y := 0x483ada7726a3c4655da4fbfc0e1108a8fd17b448a68554199c47d08ffb10d4b8

def Point.onCurve (point : Point) : Bool :=
  point.y * point.y % fieldSize == (point.x * point.x * point.x + 7) % fieldSize

/-- A point as (x / z², y / z³); the neutral element has z = 0. -/
structure Projective where
  x : Nat
  y : Nat
  z : Nat

namespace Projective

def neutral : Projective := ⟨1, 1, 0⟩

def ofPoint (point : Point) : Projective := ⟨point.x, point.y, 1⟩

private def minus (a b : Nat) : Nat := (a + fieldSize - b) % fieldSize

def double (p : Projective) : Projective :=
  if p.z = 0 ∨ p.y = 0 then neutral
  else
    let yy := p.y * p.y % fieldSize
    let s := 4 * p.x * yy % fieldSize
    let m := 3 * p.x * p.x % fieldSize
    let x := minus (m * m % fieldSize) (2 * s % fieldSize)
    ⟨x, minus (m * minus s x % fieldSize) (8 * yy * yy % fieldSize), 2 * p.y * p.z % fieldSize⟩

def add (p q : Projective) : Projective :=
  if p.z = 0 then q
  else if q.z = 0 then p
  else
    let pp := p.z * p.z % fieldSize
    let qq := q.z * q.z % fieldSize
    let u := p.x * qq % fieldSize
    let s := p.y * qq % fieldSize * q.z % fieldSize
    let h := minus (q.x * pp % fieldSize) u
    let r := minus (q.y * pp % fieldSize * p.z % fieldSize) s
    if h = 0 then (if r = 0 then double p else neutral)
    else
      let hh := h * h % fieldSize
      let hhh := h * hh % fieldSize
      let v := u * hh % fieldSize
      let x := minus (minus (r * r % fieldSize) hhh) (2 * v % fieldSize)
      ⟨x, minus (r * minus v x % fieldSize) (s * hhh % fieldSize), h * p.z % fieldSize * q.z % fieldSize⟩

def toPoint? (p : Projective) : Option Point :=
  if p.z = 0 then none
  else
    let i := inverse fieldSize p.z
    let ii := i * i % fieldSize
    some ⟨p.x * ii % fieldSize, p.y * ii % fieldSize * i % fieldSize⟩

/-- A point added to itself as often as the factor says. -/
def times (factor : Nat) (p : Projective) : Projective :=
  if factor = 0 then neutral
  else
    let half := times (factor / 2) p
    if factor % 2 = 1 then add (double half) p else double half
termination_by factor

end Projective

def multiple? (factor : Nat) : Option Point :=
  (Projective.times factor (.ofPoint generator)).toPoint?

/-- The point with the given abscissa whose ordinate is odd or even. -/
def lift? (x : Nat) (odd : Bool) : Option Point :=
  let y := power fieldSize (x * x * x + 7) ((fieldSize + 1) / 4)
  let y := if (y % 2 == 1) == odd then y else (fieldSize - y) % fieldSize
  if x < fieldSize ∧ Point.onCurve ⟨x, y⟩ then some ⟨x, y⟩ else none

def Point.compressed (point : Point) : Bytes :=
  (if point.y % 2 = 1 then 0x03 else 0x02) :: bigEndian 32 point.x

/-- Reads any written form of a point: compressed, both coordinates, or the abscissa of the
point with an even ordinate. -/
def Point.ofBytes? : Bytes → Option Point
  | 0x02 :: x => if x.length = 32 then lift? (ofBigEndian x) false else none
  | 0x03 :: x => if x.length = 32 then lift? (ofBigEndian x) true else none
  | 0x05 :: x => if x.length = 32 then lift? (ofBigEndian x) false else none
  | 0x04 :: rest =>
    let point : Point := ⟨ofBigEndian (rest.take 32), ofBigEndian (rest.drop 32)⟩
    if rest.length = 64 ∧ point.x < fieldSize ∧ point.y < fieldSize ∧ point.onCurve then some point
    else none
  | _ => none

end SwapDesk.Crypto.Secp256k1
