import SwapDesk.Wire.Shape

/-! Types that travel on the wire. A type has one shape; decoding, encoding and describing
its values are read off that shape. -/

namespace SwapDesk

/-- How many levels of brackets a text may open. -/
def Wire.room : Nat := 127

/-- A type with a wire shape that is unambiguous and shallow enough to be read. -/
class Wire (α : Type) where
  shape : Wire.Shape α
  shallow : shape.nesting ≤ Wire.room := by decide
  unambiguous : shape.isUnambiguous = true := by decide

namespace Wire

variable {α : Type} [Wire α]

def decode (input : Bytes) : Except Fault α := readAll ((shape (α := α)).reader room) input

def json (value : α) : Json := shape.json value

def text (value : α) : String := (json value).render

def encode (value : α) : Bytes := (json value).bytes

def describe (value : α) : String := shape.describe value

end Wire

instance : Wire String where shape := .text
instance : Wire Amount where shape := .amount
instance : Wire Decimal where shape := .decimal
instance : Wire Payload where shape := .payload

end SwapDesk
