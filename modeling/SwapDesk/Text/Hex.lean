import SwapDesk.Bytes

/-! Bytes as pairs of lower-case hexadecimal digits. -/

namespace SwapDesk.Text

def hexDigit (value : Nat) : Char :=
  if value < 10 then Char.ofNat ('0'.toNat + value) else Char.ofNat ('a'.toNat + (value - 10))

/-- The number below sixteen that a digit of either case stands for. -/
def hexValue? (digit : Char) : Option Nat :=
  if '0' ≤ digit ∧ digit ≤ '9' then some (digit.toNat - '0'.toNat)
  else if 'a' ≤ digit ∧ digit ≤ 'f' then some (digit.toNat - 'a'.toNat + 10)
  else if 'A' ≤ digit ∧ digit ≤ 'F' then some (digit.toNat - 'A'.toNat + 10)
  else none

def hex (input : Bytes) : String :=
  String.ofList (input.flatMap fun value => [hexDigit (value.toNat / 16), hexDigit (value.toNat % 16)])

private def ofHexDigits? : List Char → Option Bytes
  | [] => some []
  | high :: low :: rest => do
    let high ← hexValue? high
    let low ← hexValue? low
    let rest ← ofHexDigits? rest
    pure (UInt8.ofNat (16 * high + low) :: rest)
  | [_] => none

def ofHex? (text : String) : Option Bytes := ofHexDigits? text.toList

end SwapDesk.Text
