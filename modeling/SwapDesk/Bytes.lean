/-! Bytes, the texts that they are, and what one step of reading them gives. A string and its UTF-8
form determine each other: `ofBytes?_bytes` and `bytes_of_ofBytes?` are the two directions. Bytes
that are no text at all are still read character by character by `glyphs`. -/

-- Powers of natural numbers mean those of the core library, whatever others a library brings along.
attribute [default_instance high] instPowNat

namespace SwapDesk

abbrev Bytes := List UInt8

/-- A value taken from the front of an input and what it left. Every step of reading takes
something, so a reader that goes on from the rest comes to an end. -/
structure Read (α : Type) (input : Bytes) where
  value : α
  rest : Bytes
  shorter : rest.length < input.length

namespace Read

variable {α β : Type}

def map (change : α → β) {input : Bytes} (read : Read α input) : Read β input :=
  ⟨change read.value, read.rest, read.shorter⟩

/-- A read of what an earlier read left is a read of the whole input. -/
def behind {input left : Bytes} (later : Read β left) (shorter : left.length < input.length) :
    Read β input :=
  ⟨later.value, later.rest, Nat.lt_trans later.shorter shorter⟩

end Read

namespace Text

def bytes (text : String) : Bytes := text.toByteArray.data.toList

/-- The string whose UTF-8 form is given, if the bytes are one. -/
def ofBytes? (input : Bytes) : Option String := String.fromUTF8? ⟨input.toArray⟩

theorem bytes_append (first second : String) :
    bytes (first ++ second) = bytes first ++ bytes second := by
  simp [bytes, String.toByteArray_append]

theorem ofBytes?_bytes (text : String) : ofBytes? (bytes text) = some text := by
  have valid := text.isValidUTF8
  simp only [ofBytes?, bytes, Array.toArray_toList, String.fromUTF8?]
  exact dif_pos valid

theorem bytes_of_ofBytes? {input : Bytes} {text : String} (read : ofBytes? input = some text) :
    bytes text = input := by
  simp only [ofBytes?, String.fromUTF8?] at read
  split at read
  · cases read
    simp [bytes, String.fromUTF8]
  · cases read

/-- One unit of bytes that may or may not be text. -/
inductive Glyph where
  | char (value : Char)
  | stray (value : UInt8)

/-- The character that the bytes start with and the number of bytes it takes. -/
def leadingChar? (input : Bytes) : Option (Char × Nat) :=
  [1, 2, 3, 4].findSome? fun count =>
    (ofBytes? (input.take count)).bind fun text => text.toList.head?.map (·, count)

/-- Characters where the bytes are text, single bytes where they are not. -/
def glyphs : Bytes → List Glyph
  | [] => []
  | first :: rest =>
    match leadingChar? (first :: rest) with
    | some (value, count) => .char value :: glyphs (rest.drop (count - 1))
    | none => .stray first :: glyphs rest
termination_by input => input.length
decreasing_by all_goals grind

end Text

end SwapDesk
