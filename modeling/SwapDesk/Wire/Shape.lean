import SwapDesk.Base64
import SwapDesk.Json.Value
import SwapDesk.Wire.Reader

/-! The shapes of wire values. A shape says how the values of a type look as JSON; how
they are written, read and described follows from it. Records are read whatever the order
of their members, and members they do not know are passed over. -/

namespace SwapDesk.Wire

structure Iso (α β : Type) where
  ofParts : α → β
  parts : β → α
  parts_ofParts : ∀ value, parts (ofParts value) = value := by intros; rfl
  ofParts_parts : ∀ value, ofParts (parts value) = value := by intros; rfl

mutual

inductive Shape : Type → Type 1 where
  | text : Shape String
  | flag : Shape Bool
  | number16 : Shape UInt16
  | number64 : Shape UInt64
  | amount : Shape Amount
  | decimal : Shape Decimal
  | payload : Shape Payload
  | optional {α : Type} (inner : Shape α) : Shape (Option α)
  | list {α : Type} (item : Shape α) : Shape (List α)
  | record {α β σ : Type} (title : String) (fields : Fields σ β) (iso : Iso β α) : Shape α
  | choice {α β : Type} (variants : Variants β) (iso : Iso β α) : Shape α

/-- The fields of an object in order. The first index is the type of an object that is
still being read, the second that of a complete one. -/
inductive Fields : Type → Type → Type 1 where
  | nil : Fields Unit Unit
  | cons {α β σ : Type} (name : String) (fallback : Option α) (shape : Shape α)
      (rest : Fields σ β) : Fields (Option α × σ) (α × β)

/-- The variants of a choice in order, each with a title for people and a key for the wire. -/
inductive Variants : Type → Type 1 where
  | nil : Variants Empty
  | record {α β σ : Type} (title key : String) (fields : Fields σ α) (rest : Variants β) :
      Variants (α ⊕ β)
  | wrap {α β : Type} (title key : String) (shape : Shape α) (rest : Variants β) :
      Variants (α ⊕ β)

end

namespace Fields

abbrev required {α β σ : Type} (name : String) (shape : Shape α) (rest : Fields σ β) :
    Fields (Option α × σ) (α × β) := .cons name none shape rest

/-- A field that is null, or missing, when it has no value. -/
abbrev optional {α β σ : Type} (name : String) (shape : Shape α) (rest : Fields σ β) :
    Fields (Option (Option α) × σ) (Option α × β) := .cons name (some none) (.optional shape) rest

/-- A field that has a value of its own when it is missing. -/
abbrev defaulted {α β σ : Type} (name : String) (value : α) (shape : Shape α) (rest : Fields σ β) :
    Fields (Option α × σ) (α × β) := .cons name (some value) shape rest

def names {β σ : Type} : Fields σ β → List String
  | .nil => []
  | .cons name _ _ rest => name :: rest.names

def blank {β σ : Type} : Fields σ β → σ
  | .nil => ()
  | .cons _ _ _ rest => (none, rest.blank)

/-- Completes an object. The first field that is missing without a fallback is reported. -/
def complete {β σ : Type} : Fields σ β → σ → Except Fault β
  | .nil, () => .ok ()
  | .cons name fallback _ rest, (slot, slots) =>
    match slot <|> fallback with
    | none => .error (.missingField name)
    | some value => (rest.complete slots).map (value, ·)

end Fields

def Variants.keys {β : Type} : Variants β → List String
  | .nil => []
  | .record _ key _ rest => key :: rest.keys
  | .wrap _ key _ rest => key :: rest.keys

def Shape.isOptional {α : Type} : Shape α → Bool
  | .optional _ => true
  | _ => false

mutual

/-- How many brackets can stand around a part of a value. -/
def Shape.nesting {α : Type} : Shape α → Nat
  | .text | .flag | .number16 | .number64 | .amount | .decimal | .payload => 0
  | .optional inner => inner.nesting
  | .list item => item.nesting + 1
  | .record _ fields _ => fields.nesting + 1
  | .choice variants _ => variants.nesting + 1

def Fields.nesting {β σ : Type} : Fields σ β → Nat
  | .nil => 0
  | .cons _ _ shape rest => max shape.nesting rest.nesting

def Variants.nesting {β : Type} : Variants β → Nat
  | .nil => 0
  | .record _ _ fields rest => max (fields.nesting + 1) rest.nesting
  | .wrap _ _ shape rest => max shape.nesting rest.nesting

end

mutual

/-- No two fields of an object and no two variants of a choice share a name, and no
optional value holds an optional one. -/
def Shape.isUnambiguous {α : Type} : Shape α → Bool
  | .text | .flag | .number16 | .number64 | .amount | .decimal | .payload => true
  | .optional inner => inner.isUnambiguous && !inner.isOptional
  | .list item => item.isUnambiguous
  | .record _ fields _ => fields.isUnambiguous
  | .choice variants _ => variants.isUnambiguous

def Fields.isUnambiguous {β σ : Type} : Fields σ β → Bool
  | .nil => true
  | .cons name _ shape rest =>
    !rest.names.contains name && shape.isUnambiguous && rest.isUnambiguous

def Variants.isUnambiguous {β : Type} : Variants β → Bool
  | .nil => true
  | .record _ key fields rest =>
    !rest.keys.contains key && fields.isUnambiguous && rest.isUnambiguous
  | .wrap _ key shape rest =>
    !rest.keys.contains key && shape.isUnambiguous && rest.isUnambiguous

end

mutual

def Shape.json {α : Type} : Shape α → α → Json
  | .text, value => .text value
  | .flag, value => .boolean value
  | .number16, value => .number value.toNat
  | .number64, value => .number value.toNat
  | .amount, value => .text value.text
  | .decimal, value => .text value.text
  | .payload, value => .text value.toBase64
  | .optional _, none => .null
  | .optional inner, some value => inner.json value
  | .list item, values => .list (values.map fun value => item.json value)
  | .record _ fields iso, value => .object (fields.json (iso.parts value))
  | .choice variants iso, value => .object [variants.json (iso.parts value)]

def Fields.json {β σ : Type} : Fields σ β → β → List (String × Json)
  | .nil, () => []
  | .cons name _ shape rest, (value, values) => (name, shape.json value) :: rest.json values

def Variants.json {β : Type} : Variants β → β → String × Json
  | .record _ key fields _, .inl value => (key, .object (fields.json value))
  | .wrap _ key shape _, .inl value => (key, shape.json value)
  | .record _ _ _ rest, .inr value => rest.json value
  | .wrap _ _ _ rest, .inr value => rest.json value

end

open Reader in
mutual

/-- Reads a value in which the given number of levels may be opened. -/
def Shape.reader {α : Type} : Shape α → (room : Nat) → Reader α
  | .text, _ => string
  | .flag, _ => flag
  | .number16, _ => (unsigned (2 ^ 16)).map UInt16.ofNat
  | .number64, _ => (unsigned (2 ^ 64)).map UInt64.ofNat
  | .amount, _ => string.refine fun text => (Amount.ofText text).mapError (.amount text)
  | .decimal, _ => string.refine fun text => (Decimal.ofText text).mapError .decimal
  | .payload, _ => string.refine fun text => (Payload.ofBase64 text).mapError .base64
  | .optional inner, room => optional (inner.reader room)
  | .list item, room => enclosed 0x5b room fun room => elements (item.reader room) true
  | .record _ fields iso, room =>
    (enclosed 0x7b room fun room =>
      (members (fields.member room) true fields.blank).refine fields.complete).map iso.ofParts
  | .choice variants iso, room => (tagged variants.keys room variants.form).map iso.ofParts

/-- The reader of the member with the given key. A field that has been read is not read
again, and a key that names no field is passed over. -/
def Fields.member {β σ : Type} : Fields σ β → (room : Nat) → String → σ → Except Fault (Reader σ)
  | .nil, room, _, () => .ok (skip room)
  | .cons name _ shape rest, room, key, (slot, slots) =>
    if key = name then
      if slot.isSome then .error (.duplicateField name)
      else .ok ((shape.reader room).map fun value => (some value, slots))
    else (rest.member room key slots).map (Reader.map fun slots => (slot, slots))

def Variants.form {β : Type} : Variants β → (room : Nat) → String → Option (Reader β)
  | .nil, _, _ => none
  | .record _ name fields rest, room, key =>
    if key = name then
      some ((enclosed 0x7b room fun room =>
        (members (fields.member room) true fields.blank).refine fields.complete).map .inl)
    else (rest.form room key).map (Reader.map .inr)
  | .wrap _ name shape rest, room, key =>
    if key = name then some ((shape.reader room).map .inl)
    else (rest.form room key).map (Reader.map .inr)

end

mutual

/-- A value as a person reads it: titles, field names and the parts. -/
def Shape.describe {α : Type} : Shape α → α → String
  | .text, value => Text.quoted value
  | .flag, value => if value then "true" else "false"
  | .number16, value => value.toNat.repr
  | .number64, value => value.toNat.repr
  | .amount, value => Text.describedWrap "Uint128" value.text
  | .decimal, value => Text.describedWrap "Decimal" (Text.quoted value.text)
  | .payload, value =>
    Text.describedWrap "Binary" (Text.described (value.bytes.map fun byte => byte.toNat.repr))
  | .optional _, none => "None"
  | .optional inner, some value => Text.describedWrap "Some" (inner.describe value)
  | .list item, values => Text.described (values.map fun value => item.describe value)
  | .record title fields iso, value => Text.describedRecord title (fields.describe (iso.parts value))
  | .choice variants iso, value => variants.describe (iso.parts value)

def Fields.describe {β σ : Type} : Fields σ β → β → List (String × String)
  | .nil, () => []
  | .cons name _ shape rest, (value, values) => (name, shape.describe value) :: rest.describe values

def Variants.describe {β : Type} : Variants β → β → String
  | .record title _ fields _, .inl value => Text.describedRecord title (fields.describe value)
  | .wrap title _ shape _, .inl value => Text.describedWrap title (shape.describe value)
  | .record _ _ _ rest, .inr value => rest.describe value
  | .wrap _ _ _ rest, .inr value => rest.describe value

end

end SwapDesk.Wire
