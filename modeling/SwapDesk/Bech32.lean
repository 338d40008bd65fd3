import SwapDesk.Crypto.Octets

/-! Bech32 text: a readable part, the separator 1, data of five bits a symbol, and a
checksum of six symbols. -/

namespace SwapDesk.Bech32

def alphabet : List Char := "qpzry9x8gf2tvdw0s3jn54khce6mua7l".toList

def symbol (value : Nat) : Char := alphabet.getD value 'q'

private def generators : List Nat := [0x3b6a57b2, 0x26508e6d, 0x1ea119fa, 0x3d4233dd, 0x2a1462b3]

/-- Takes a value into the remainder that the checksum is made of. -/
private def feed (remainder value : Nat) : Nat :=
  let top := remainder >>> 25
  let moved := (remainder % 2 ^ 25) * 32 ^^^ value
  generators.zipIdx.foldl (fun total (generator, place) =>
    if top.testBit place then total ^^^ generator else total) moved

def remainder (values : List Nat) : Nat := values.foldl feed 1

/-- The readable part as values: its high bits, a zero, and its low bits. -/
def spread (hrp : List Char) : List Nat :=
  hrp.map (·.toNat / 32) ++ 0 :: hrp.map (·.toNat % 32)

def checksum (hrp : List Char) (values : List Nat) : List Nat :=
  let sum := remainder (spread hrp ++ values ++ List.replicate 6 0) ^^^ 1
  (List.range 6).reverse.map fun place => sum >>> (5 * place) % 32

/-- Bits regrouped from one size to another, what is left over at the end included. -/
private def regroup (size target : Nat) (values : List Nat) : List Nat × Nat × Nat :=
  let bits := values.length * size
  let total := values.foldl (fun total value => total <<< size + value) 0
  let whole := bits / target
  let rest := bits % target
  ((List.range whole).reverse.map fun place => total >>> (rest + target * place) % (1 <<< target),
    total % (1 <<< rest), rest)

def encode (hrp : String) (data : Bytes) : String :=
  let (whole, left, rest) := regroup 8 5 (data.map UInt8.toNat)
  let values := if rest = 0 then whole else whole ++ [left <<< (5 - rest)]
  hrp ++ "1" ++ String.ofList ((values ++ checksum hrp.toList values).map symbol)

/-- The lower-case form of a letter. Of the letters beyond ASCII only the sign of the kelvin
has one within it. -/
private def lowered (c : Char) : Char := if c = '\u212a' then 'k' else c.toLower

/-- Reads text written in lower case, or with data in upper case when it begins so. The
readable part may mix cases and is given in lower case. -/
def decode? (text : String) : Option (String × Bytes) := do
  let symbols := text.toList
  let upper := symbols.head?.any fun c => c ≠ lowered c
  let tail := (symbols.reverse.takeWhile (· ≠ '1')).reverse
  if tail.length = symbols.length then none
  let hrp := (symbols.take (symbols.length - tail.length - 1)).map lowered
  if hrp.isEmpty || hrp.any (fun c => c.toNat < 33 || 126 < c.toNat) || tail.length < 6 then none
  let values ← tail.mapM fun c =>
    if upper then (if c.isLower then none else alphabet.idxOf? c.toLower) else alphabet.idxOf? c
  if remainder (spread hrp ++ values) ≠ 1 then none
  let (bytes, left, rest) := regroup 5 8 (values.take (values.length - 6))
  if 5 ≤ rest || left ≠ 0 then none
  some (String.ofList hrp, bytes.map UInt8.ofNat)

end SwapDesk.Bech32
