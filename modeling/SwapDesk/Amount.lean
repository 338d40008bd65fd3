import SwapDesk.Text.Numeral
import SwapDesk.Text.Quoted

/-! Amounts of 128 bits as the contracts count them: unsigned ones, which travel as decimal text,
and fixed-point decimals with eighteen fractional digits, which keep the text they were written
with. -/

namespace SwapDesk

structure Amount where
  value : Nat
  bounded : value < 2 ^ 128
  deriving DecidableEq

namespace Amount

/-- Amounts from machine words always fit. -/
def ofUInt64 (word : UInt64) : Amount :=
  ⟨word.toNat, Nat.lt_of_lt_of_le word.toNat_lt (by decide)⟩

def text (amount : Amount) : String := amount.value.repr

def ofText (text : String) : Except Numeral.Fault Amount :=
  match done : Numeral.read (2 ^ 128) text with
  | .ok value => .ok ⟨value, Numeral.read_lt (by decide) done⟩
  | .error fault => .error fault

end Amount

namespace Decimal

inductive Fault where
  | empty
  | invalidCharacters (text : String)
  | tooPrecise (text : String)
  | outOfRange (text : String)
  deriving DecidableEq

def Fault.message : Fault → String
  | .empty => "Decimal is empty!"
  | .invalidCharacters text =>
    "Decimal " ++ Text.quoted text ++ " contains characters other than digits and a single point!"
  | .tooPrecise text => "Decimal " ++ Text.quoted text ++ " has more than 18 fractional digits!"
  | .outOfRange text =>
    "Decimal " ++ Text.quoted text ++ " doesn't fit in 128 bits with 18 fractional digits!"

/-- The number of fractional digits that the contracts keep. -/
def places : Nat := 18

/-- The text before the first point and, if there is one, the text after it. -/
def halves (text : List Char) : List Char × Option (List Char) :=
  (text.takeWhile (· ≠ '.'), (text.dropWhile (· ≠ '.')).tail?)

def isDigits (half : List Char) : Bool := !half.isEmpty && half.all Char.isDigit

/-- A number that 128 bits hold. -/
def fit? (value : Nat) : Option Nat := if value < 2 ^ 128 then some value else none

/-- The number that digits stand for, if 128 bits hold it. -/
def number? (digits : List Char) : Option Nat :=
  (Numeral.read (2 ^ 128) (String.ofList digits)).toOption

/-- The units of the last place in a fraction, which is filled up with zeros to that place. -/
def parts? (fraction : List Char) : Option Nat :=
  if fraction.isEmpty then some 0 else number? (fraction.rightpad places '0')

/-- The value in units of the last place. Each half and each step of the calculation has to fit
into 128 bits. -/
def units? (whole fraction : List Char) : Option Nat := do
  let parts ← parts? fraction
  let ones ← number? whole
  let scaled ← fit? (ones * Nat.pow 10 places)
  fit? (scaled + parts)

/-- What is wrong with a text as a decimal, if anything is. -/
def fault? (text : String) : Option Fault :=
  let (whole, fraction) := halves text.toList
  if text.isEmpty then some .empty
  else if !isDigits whole || !fraction.all isDigits then some (.invalidCharacters text)
  else if fraction.any (places < ·.length) then some (.tooPrecise text)
  else if (units? whole (fraction.getD [])).isNone then some (.outOfRange text)
  else none

end Decimal

structure Decimal where
  text : String
  valid : Decimal.fault? text = none

namespace Decimal

def ofText (text : String) : Except Fault Decimal :=
  match valid : fault? text with
  | none => .ok ⟨text, valid⟩
  | some fault => .error fault

end Decimal

end SwapDesk
