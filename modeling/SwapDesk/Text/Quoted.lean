import SwapDesk.Bytes
import SwapDesk.Text.Printable

/-! Quoted text and the descriptions built from it. A description names the kind of a
value and then its parts, as a person reads them in a log line or in an error. -/

namespace SwapDesk.Text

def hexDigits (value : Nat) : String := String.ofList (Nat.toDigits 16 value)

/-- A character inside quotes: the quote, the backslash and what has no face of its own
are escaped. -/
def escaped (value : Char) : String :=
  if value = '"' then "\\\""
  else if value = '\\' then "\\\\"
  else if value = '\n' then "\\n"
  else if value = '\r' then "\\r"
  else if value = '\t' then "\\t"
  else if value = '\x00' then "\\0"
  else if isPrintable value then value.toString
  else "\\u\x7b" ++ hexDigits value.toNat ++ "\x7d"

def quoted (text : String) : String :=
  "\"" ++ String.join (text.toList.map escaped) ++ "\""

private def upperHex (value : UInt8) : String :=
  let digits := (Nat.toDigits 16 value.toNat).map Char.toUpper
  String.ofList (if digits.length < 2 then '0' :: digits else digits)

/-- Bytes between quotes, each byte that belongs to no character in hexadecimal. -/
def quotedBytes (input : Bytes) : String :=
  "\"" ++ String.join ((glyphs input).map fun
    | .char value => escaped value
    | .stray value => "\\x" ++ upperHex value) ++ "\""

def described (items : List String) : String := "[" ++ ", ".intercalate items ++ "]"

/-- A title with its named parts, or the title alone when there are none. -/
def describedRecord (title : String) (parts : List (String × String)) : String :=
  if parts.isEmpty then title
  else title ++ " \x7b " ++ ", ".intercalate (parts.map fun part => part.1 ++ ": " ++ part.2) ++ " \x7d"

def describedWrap (title part : String) : String := title ++ "(" ++ part ++ ")"

end SwapDesk.Text
