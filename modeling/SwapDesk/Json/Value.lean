import SwapDesk.Bytes

/-! JSON values and their compact text. Members keep the order in which they are given. -/

namespace SwapDesk

inductive Json where
  | null
  | boolean (value : Bool)
  | number (value : Int)
  | text (value : String)
  | list (items : List Json)
  | object (members : List (String × Json))

namespace Json

def upperDigit (value : Nat) : Char :=
  if value < 10 then Char.ofNat ('0'.toNat + value) else Char.ofNat ('A'.toNat + (value - 10))

/-- A character inside a string: the quote, the backslash and control characters are
escaped, nothing else is. -/
def escape (value : Char) : String :=
  if value = '"' then "\\\""
  else if value = '\\' then "\\\\"
  else if value = '\x08' then "\\b"
  else if value = '\t' then "\\t"
  else if value = '\n' then "\\n"
  else if value = '\x0c' then "\\f"
  else if value = '\r' then "\\r"
  else if value.toNat < 0x20 then
    "\\u00" ++ String.ofList [upperDigit (value.toNat / 16), upperDigit (value.toNat % 16)]
  else value.toString

def string (value : String) : String :=
  "\"" ++ String.join (value.toList.map escape) ++ "\""

mutual
def render : Json → String
  | .null => "null"
  | .boolean true => "true"
  | .boolean false => "false"
  | .number value => value.repr
  | .text value => string value
  | .list items => "[" ++ renderItems items ++ "]"
  | .object members => "\x7b" ++ renderMembers members ++ "\x7d"
def renderItems : List Json → String
  | [] => ""
  | [item] => render item
  | item :: next :: rest => render item ++ "," ++ renderItems (next :: rest)
def renderMembers : List (String × Json) → String
  | [] => ""
  | [(key, value)] => string key ++ ":" ++ render value
  | (key, value) :: next :: rest =>
    string key ++ ":" ++ render value ++ "," ++ renderMembers (next :: rest)
end

def bytes (value : Json) : Bytes := Text.bytes value.render

end Json

end SwapDesk
