import SwapDesk.Bytes

/-! Padded base64 over the standard alphabet, and the opaque bytes that messages carry in it. Each
block of four symbols stands on its own, so a padded block may be followed by further blocks. -/

namespace SwapDesk.Base64

inductive Problem where
  | length
  | symbol
  | trailingBits
  | padding
  deriving DecidableEq

/-- A problem and the position of the byte it was met at. -/
structure Fault where
  problem : Problem
  position : Nat
  deriving DecidableEq

def Problem.message : Problem → String
  | .length => "invalid length"
  | .symbol => "invalid symbol"
  | .trailingBits => "non-zero trailing bits"
  | .padding => "invalid padding length"

def Fault.message (fault : Fault) : String :=
  fault.problem.message ++ " at " ++ fault.position.repr

def symbol (value : Nat) : Char :=
  if value < 26 then Char.ofNat ('A'.toNat + value)
  else if value < 52 then Char.ofNat ('a'.toNat + (value - 26))
  else if value < 62 then Char.ofNat ('0'.toNat + (value - 52))
  else if value = 62 then '+'
  else '/'

def value? (byte : UInt8) : Option Nat :=
  let code := byte.toNat
  if 'A'.toNat ≤ code ∧ code ≤ 'Z'.toNat then some (code - 'A'.toNat)
  else if 'a'.toNat ≤ code ∧ code ≤ 'z'.toNat then some (code - 'a'.toNat + 26)
  else if '0'.toNat ≤ code ∧ code ≤ '9'.toNat then some (code - '0'.toNat + 52)
  else if code = '+'.toNat then some 62
  else if code = '/'.toNat then some 63
  else none

def pad : UInt8 := 0x3d

/-- Three bytes make four symbols; a shorter tail is padded. -/
def symbols : Bytes → List Char
  | [] => []
  | [a] => [symbol (a.toNat / 4), symbol (a.toNat % 4 * 16), '=', '=']
  | [a, b] =>
    [symbol (a.toNat / 4), symbol (a.toNat % 4 * 16 + b.toNat / 16), symbol (b.toNat % 16 * 4), '=']
  | a :: b :: c :: rest =>
    symbol (a.toNat / 4) :: symbol (a.toNat % 4 * 16 + b.toNat / 16) ::
      symbol (b.toNat % 16 * 4 + c.toNat / 64) :: symbol (c.toNat % 64) :: symbols rest

def encode (input : Bytes) : String := String.ofList (symbols input)

def expectSymbol (position : Nat) (byte : UInt8) : Except Fault Nat :=
  match value? byte with
  | some value => .ok value
  | none => .error ⟨.symbol, position⟩

/-- The bytes of one block, whose first symbol stands at `position`. -/
def block (position : Nat) (four : Bytes) : Except Fault Bytes :=
  match (four.reverse.dropWhile (· == pad)).reverse with
  | [] => .error ⟨.padding, position⟩
  | [_] => .error ⟨.padding, position + 1⟩
  | [a, b] => do
    let a ← expectSymbol position a
    let b ← expectSymbol (position + 1) b
    if b % 16 ≠ 0 then .error ⟨.trailingBits, position + 1⟩
    else .ok [UInt8.ofNat (a * 4 + b / 16)]
  | [a, b, c] => do
    let a ← expectSymbol position a
    let b ← expectSymbol (position + 1) b
    let c ← expectSymbol (position + 2) c
    if c % 4 ≠ 0 then .error ⟨.trailingBits, position + 2⟩
    else .ok [UInt8.ofNat (a * 4 + b / 16), UInt8.ofNat (b % 16 * 16 + c / 4)]
  | a :: b :: c :: d :: _ => do
    let a ← expectSymbol position a
    let b ← expectSymbol (position + 1) b
    let c ← expectSymbol (position + 2) c
    let d ← expectSymbol (position + 3) d
    .ok [UInt8.ofNat (a * 4 + b / 16), UInt8.ofNat (b % 16 * 16 + c / 4),
      UInt8.ofNat (c % 4 * 64 + d)]

/-- Decodes block after block, the first of them at `position`. -/
def blocks (position : Nat) : Bytes → Except Fault Bytes
  | [] => .ok []
  | a :: b :: c :: d :: rest => do
    let first ← block position [a, b, c, d]
    let others ← blocks (position + 4) rest
    .ok (first ++ others)
  | _ => .error ⟨.length, position⟩

/-- Decodes text made of whole blocks. A length that no blocks have is found before
anything else. -/
def decode (text : String) : Except Fault Bytes :=
  let input := Text.bytes text
  if input.length % 4 ≠ 0 then .error ⟨.length, input.length - input.length % 4⟩
  else blocks 0 input

end SwapDesk.Base64

namespace SwapDesk

structure Payload where
  bytes : Bytes
  deriving DecidableEq

namespace Payload

def toBase64 (payload : Payload) : String := Base64.encode payload.bytes

def ofBase64 (text : String) : Except Base64.Fault Payload := (Base64.decode text).map Payload.mk

end Payload

end SwapDesk
