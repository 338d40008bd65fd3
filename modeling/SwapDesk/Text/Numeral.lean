/-! Decimal numerals below a bound. They are read from the left, and the first problem
met on the way decides the error. -/

namespace SwapDesk.Numeral

inductive Fault where
  | empty
  | invalidDigit
  | tooLarge
  deriving DecidableEq, Repr

def Fault.message : Fault → String
  | .empty => "cannot parse integer from empty string"
  | .invalidDigit => "invalid digit found in string"
  | .tooLarge => "number too large to fit in target type"

def digit? (symbol : Char) : Option Nat :=
  if symbol.isDigit then some (symbol.toNat - '0'.toNat) else none

/-- Puts the digits that follow behind those read so far. -/
def extend (bound total : Nat) : List Char → Except Fault Nat
  | [] => .ok total
  | symbol :: rest =>
    match digit? symbol with
    | none => .error .invalidDigit
    | some digit =>
      if 10 * total + digit < bound then extend bound (10 * total + digit) rest
      else .error .tooLarge

/-- A numeral is one or more digits, after a plus sign or bare. -/
def read (bound : Nat) (text : String) : Except Fault Nat :=
  match text.toList with
  | [] => .error .empty
  | ['+'] => .error .invalidDigit
  | '+' :: digits => extend bound 0 digits
  | digits => extend bound 0 digits

def value (digits : List Char) : Nat :=
  digits.foldl (fun total symbol => 10 * total + (symbol.toNat - '0'.toNat)) 0

theorem extend_lt {bound total result : Nat} {symbols : List Char} (start : total < bound)
    (read : extend bound total symbols = .ok result) : result < bound := by
  induction symbols generalizing total with
  | nil => cases read; exact start
  | cons symbol rest ih =>
    unfold extend at read
    split at read
    · cases read
    · split at read
      · next inside => exact ih inside read
      · cases read

theorem read_lt {bound result : Nat} {text : String} (positive : 0 < bound)
    (done : read bound text = .ok result) : result < bound := by
  unfold read at done
  split at done
  · cases done
  · cases done
  · exact extend_lt positive done
  · exact extend_lt positive done

end SwapDesk.Numeral
