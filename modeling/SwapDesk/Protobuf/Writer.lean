import SwapDesk.Bytes

/-! Writing protobuf. A field is a tag and a value; a field of a scalar type with its default
value is left out. -/

namespace SwapDesk.Protobuf

/-- A number in groups of seven bits, lowest first; all bytes but the last have the high bit
set. -/
def varint (value : Nat) : Bytes :=
  if value < 128 then [UInt8.ofNat value]
  else UInt8.ofNat (value % 128 + 128) :: varint (value / 128)
termination_by value

def tag (field kind : Nat) : Bytes := varint (8 * field + kind)

/-- A field of a given length that is present even when empty. -/
def message (field : Nat) (content : Bytes) : Bytes :=
  tag field 2 ++ varint content.length ++ content

def bytes (field : Nat) (content : Bytes) : Bytes :=
  if content.isEmpty then [] else message field content

def text (field : Nat) (content : String) : Bytes := bytes field (Text.bytes content)

def number (field value : Nat) : Bytes := if value = 0 then [] else tag field 0 ++ varint value

def repeated {α : Type} (field : Nat) (encode : α → Bytes) (items : List α) : Bytes :=
  items.flatMap fun item => message field (encode item)

structure Typed where
  typeUrl : String
  content : Bytes
  deriving DecidableEq

def Typed.encode (typed : Typed) : Bytes := text 1 typed.typeUrl ++ bytes 2 typed.content

end SwapDesk.Protobuf
