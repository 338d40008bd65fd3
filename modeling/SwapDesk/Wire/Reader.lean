import SwapDesk.Wire.Fault

/-! Readers of JSON text. A reader takes its value from the front of the input and leaves
a shorter rest, so reading again and again ends. Blanks before a token are skipped by
whoever reads the token. -/

namespace SwapDesk.Wire

abbrev Reader (α : Type) := (input : Bytes) → Except Fault (Read α input)

variable {α β σ : Type}

namespace Reader

def map (change : α → β) (reader : Reader α) : Reader β :=
  fun input => (reader input).map (Read.map change)

def refine (check : α → Except Fault β) (reader : Reader α) : Reader β := fun input => do
  let read ← reader input
  let value ← check read.value
  pure ⟨value, read.rest, read.shorter⟩

end Reader

def isBlank (byte : UInt8) : Bool := byte == 0x20 || byte == 0x0a || byte == 0x09 || byte == 0x0d

def isDigit (byte : UInt8) : Bool := 0x30 ≤ byte && byte ≤ 0x39

private theorem length_dropWhile_le (test : UInt8 → Bool) (input : Bytes) :
    (input.dropWhile test).length ≤ input.length :=
  (List.dropWhile_suffix test).length_le

def next (atEnd : Fault) : Reader UInt8 := fun input =>
  match found : input.dropWhile isBlank with
  | [] => .error atEnd
  | first :: rest =>
    .ok ⟨first, rest, by have := length_dropWhile_le isBlank input; grind⟩

/-- The letters of a word after its first one. -/
def word (letters : Bytes) : (input : Bytes) →
    Except Fault { rest : Bytes // rest.length ≤ input.length } := fun input =>
  if letters.isPrefixOf input then .ok ⟨input.drop letters.length, by simp⟩
  else .error .expectedWord

def flag : Reader Bool := fun input => do
  let head ← next .endInValue input
  if head.value = 0x74 then
    let rest ← word [0x72, 0x75, 0x65] head.rest
    pure ⟨true, rest.1, Nat.lt_of_le_of_lt rest.2 head.shorter⟩
  else if head.value = 0x66 then
    let rest ← word [0x61, 0x6c, 0x73, 0x65] head.rest
    pure ⟨false, rest.1, Nat.lt_of_le_of_lt rest.2 head.shorter⟩
  else .error .invalidType

def optional (inner : Reader α) : Reader (Option α) := fun input => do
  let head ← next .endInValue input
  if head.value = 0x6e then
    let rest ← word [0x75, 0x6c, 0x6c] head.rest
    pure ⟨none, rest.1, Nat.lt_of_le_of_lt rest.2 head.shorter⟩
  else (inner.map some) input

def digitsValue (digits : Bytes) : Nat :=
  digits.foldl (fun total digit => 10 * total + (digit.toNat - 0x30)) 0

/-- A number without sign below the bound. A zero ends the number; any other first digit
takes all digits behind it along. -/
def unsigned (bound : Nat) : Reader Nat := fun input => do
  let head ← next .endInValue input
  if head.value = 0x2d then .error .invalidNumber
  else if head.value = 0x30 then pure ⟨0, head.rest, head.shorter⟩
  else if isDigit head.value then
    let value := digitsValue (head.value :: head.rest.takeWhile isDigit)
    if value < bound then
      pure ⟨value, head.rest.dropWhile isDigit,
        Nat.lt_of_le_of_lt (length_dropWhile_le isDigit head.rest) head.shorter⟩
    else .error .invalidNumber
  else .error .invalidType

/-- Splits at the quote that ends a string. A quote behind an odd number of backslashes
is part of the string. -/
def splitString (afterBackslash : Bool) : Bytes → Option (Bytes × Bytes)
  | [] => none
  | first :: rest =>
    if first = 0x22 && !afterBackslash then some ([], rest)
    else (splitString (first = 0x5c && !afterBackslash) rest).map fun (body, rest) =>
      (first :: body, rest)

theorem splitString_length {input body rest : Bytes} {afterBackslash : Bool}
    (split : splitString afterBackslash input = some (body, rest)) :
    rest.length < input.length := by
  induction input generalizing afterBackslash body with
  | nil => cases split
  | cons first others ih =>
    unfold splitString at split
    split at split
    · cases split
      simp
    · obtain ⟨⟨inner, last⟩, found, same⟩ := Option.map_eq_some_iff.1 split
      cases same
      have := ih found
      simp
      omega

def hexValue? (digit : UInt8) : Option Nat :=
  if 0x30 ≤ digit ∧ digit ≤ 0x39 then some (digit.toNat - 0x30)
  else if 0x61 ≤ digit ∧ digit ≤ 0x66 then some (digit.toNat - 0x61 + 10)
  else if 0x41 ≤ digit ∧ digit ≤ 0x46 then some (digit.toNat - 0x41 + 10)
  else none

def expectHex (digit : UInt8) : Except Fault Nat :=
  if digit ≤ 0x1f then .error .controlCharacter
  else match hexValue? digit with
    | some value => .ok value
    | none => .error .invalidEscape

/-- The UTF-16 unit that four hexadecimal digits stand for. -/
def codeUnit (a b c d : UInt8) : Except Fault Nat := do
  let a ← expectHex a
  let b ← expectHex b
  let c ← expectHex c
  let d ← expectHex d
  pure (((a * 16 + b) * 16 + c) * 16 + d)

def shortEscape? (letter : UInt8) : Option UInt8 :=
  if letter = 0x22 ∨ letter = 0x2f ∨ letter = 0x5c then some letter
  else if letter = 0x62 then some 0x08
  else if letter = 0x66 then some 0x0c
  else if letter = 0x6e then some 0x0a
  else if letter = 0x72 then some 0x0d
  else if letter = 0x74 then some 0x09
  else none

/-- The character of a UTF-16 unit or a surrogate pair, in UTF-8. -/
def encoded (codePoint : Nat) : Bytes := String.utf8EncodeChar (Char.ofNat codePoint)

/-- Adds a UTF-16 unit to what is known: text to write, or a high surrogate that waits
for the low one. -/
def combine (pending : Option Nat) (unit : Nat) : Except Fault (Bytes × Option Nat) :=
  if 0xd800 ≤ unit ∧ unit ≤ 0xdbff then
    match pending with
    | none => .ok ([], some unit)
    | some _ => .error .expectedLowSurrogate
  else if 0xdc00 ≤ unit ∧ unit ≤ 0xdfff then
    match pending with
    | none => .error .expectedHighSurrogate
    | some high => .ok (encoded (0x10000 + (high - 0xd800) * 0x400 + (unit - 0xdc00)), none)
  else .ok (encoded unit, pending)

/-- Resolves the escapes of a string's body. A high surrogate stays pending across other
escapes, but no plain byte may follow it. -/
def unescape (pending : Option Nat) : Bytes → Except Fault Bytes
  | [] => if pending.isSome then .error .loneSurrogate else .ok []
  | 0x5c :: 0x75 :: a :: b :: c :: d :: rest => do
    let unit ← codeUnit a b c d
    let (written, pending) ← combine pending unit
    let others ← unescape pending rest
    pure (written ++ others)
  | 0x5c :: 0x75 :: few => do
    for digit in few do
      let _ ← expectHex digit
    .error .invalidEscape
  | [0x5c] => .error .invalidEscape
  | 0x5c :: letter :: rest =>
    if letter ≤ 0x1f then .error .controlCharacter
    else match shortEscape? letter with
      | none => .error .invalidEscape
      | some byte => do
        let others ← unescape pending rest
        pure (byte :: others)
  | first :: rest =>
    if first ≤ 0x1f then .error .controlCharacter
    else if pending.isSome then .error .loneSurrogate
    else do
      let others ← unescape none rest
      pure (first :: others)

/-- The text of a string's body. Without a backslash the body is taken as it is. -/
def bodyText (body : Bytes) : Except Fault String := do
  let plain ← if body.contains 0x5c then unescape none body else pure body
  match Text.ofBytes? plain with
  | some text => pure text
  | none => .error .invalidCodePoint

def string : Reader String := fun input => do
  let head ← next .endInValue input
  if head.value ≠ 0x22 then .error .invalidType
  else match split : splitString false head.rest with
    | none => .error .endInString
    | some (body, rest) => do
      let text ← bodyText body
      pure ⟨text, rest, Nat.lt_trans (splitString_length split) head.shorter⟩

/-- What stands behind an opening byte, read one level deeper. -/
def enclosed (opening : UInt8) (room : Nat) (inside : Nat → Reader α) : Reader α := fun input => do
  let head ← next .endInValue input
  if head.value ≠ opening then .error .invalidType
  else match room with
    | 0 => .error .tooDeep
    | room + 1 => do
      let read ← inside room head.rest
      pure (read.behind head.shorter)

/-- Where the next element of a list begins, or the rest behind the list's end. -/
inductive Place (input : Bytes) where
  | element (start : Bytes) (within : start.length ≤ input.length)
  | ended (rest : Bytes) (shorter : rest.length < input.length)

/-- A comma may stand before any element, even the first; only an element with none before
it counts as the first. -/
def nextElement (first : Bool) (input : Bytes) : Except Fault (Place input × Bool) := do
  let head ← next .endInList input
  if head.value = 0x5d then pure (.ended head.rest head.shorter, first)
  else if head.value = 0x2c then
    let after ← next .endInValue head.rest
    if after.value = 0x5d then .error .trailingComma
    else pure (.element head.rest (Nat.le_of_lt head.shorter), first)
  else if first then pure (.element input (Nat.le_refl _), false)
  else .error .expectedListComma

def elements (element : Reader α) (first : Bool) : Reader (List α) := fun input => do
  match ← nextElement first input with
  | (.ended rest shorter, _) => pure ⟨[], rest, shorter⟩
  | (.element start within, first) =>
    let item ← element start
    let others ← elements element first item.rest
    pure ⟨item.value :: others.value, others.rest,
      Nat.lt_trans others.shorter (Nat.lt_of_lt_of_le item.shorter within)⟩
termination_by input => input.length
decreasing_by exact Nat.lt_of_lt_of_le item.shorter within

def nextKey (first : Bool) : Reader (Option String) := fun input => do
  let head ← next .endInObject input
  if head.value = 0x7d then pure ⟨none, head.rest, head.shorter⟩
  else if head.value = 0x2c && !first then
    let after ← next .endInValue head.rest
    if after.value = 0x7d then .error .trailingComma
    else if after.value ≠ 0x22 then .error .keyNotText
    else do
      let key ← string head.rest
      pure ((key.behind head.shorter).map some)
  else if !first then .error .expectedObjectComma
  else if head.value ≠ 0x22 then .error .keyNotText
  else (string.map some) input

def colon : Reader Unit := fun input => do
  let head ← next .endInObject input
  if head.value = 0x3a then pure ⟨(), head.rest, head.shorter⟩
  else .error .expectedColon

/-- The members of an object up to and including its end. Each key with what has been read
so far chooses the reader of its value, or refuses the object before the colon. -/
def members (member : String → σ → Except Fault (Reader σ)) (first : Bool) (state : σ) :
    Reader σ := fun input => do
  let key ← nextKey first input
  match key.value with
  | none => pure ⟨state, key.rest, key.shorter⟩
  | some name =>
    let reader ← member name state
    let colon ← colon key.rest
    let read ← reader colon.rest
    let others ← members member false read.value read.rest
    pure (others.behind (Nat.lt_trans read.shorter (Nat.lt_trans colon.shorter key.shorter)))
termination_by input => input.length
decreasing_by exact Nat.lt_trans read.shorter (Nat.lt_trans colon.shorter key.shorter)

/-- An object with a single member whose key names the form of its value. A bare name is
recognised and then refused, because every form has a value. -/
def tagged (known : List String) (room : Nat) (form : Nat → String → Option (Reader α)) :
    Reader α := fun input => do
  let head ← next .endInValue input
  if head.value = 0x22 then
    let name ← string input
    match form 0 name.value with
    | none => .error (.unknownVariant name.value known)
    | some _ => .error .invalidType
  else if head.value = 0x7b then
    match room with
    | 0 => .error .tooDeep
    | room + 1 =>
      let name ← string head.rest
      match form room name.value with
      | none => .error (.unknownVariant name.value known)
      | some reader =>
        let colon ← colon name.rest
        let read ← reader colon.rest
        let close ← next .endInValue read.rest
        if close.value = 0x7d then
          pure ⟨read.value, close.rest, Nat.lt_trans close.shorter (Nat.lt_trans read.shorter
            (Nat.lt_trans colon.shorter (Nat.lt_trans name.shorter head.shorter)))⟩
        else .error .expectedValue
  else .error .expectedWord

def endsScalar (byte : UInt8) : Bool := byte == 0x2c || byte == 0x7d || byte == 0x5d

/-- Passes over a value. Strings and containers are read with care; anything else runs up
to the next comma or closing bracket. Nested values are passed over by `nested`. -/
def skipWith (nested : Option (Reader Unit)) : Reader Unit := fun input => do
  let head ← next .endInValue input
  if head.value = 0x22 then (string.map fun _ => ()) input
  else if head.value = 0x5b then
    match nested with
    | none => .error .tooDeep
    | some reader =>
      let read ← elements reader true head.rest
      pure ((read.behind head.shorter).map fun _ => ())
  else if head.value = 0x7b then
    match nested with
    | none => .error .tooDeep
    | some reader =>
      let read ← members (fun _ _ => .ok reader) true () head.rest
      pure (read.behind head.shorter)
  else if endsScalar head.value then .error .expectedValue
  else
    let rest := head.rest.dropWhile fun byte => !endsScalar byte
    if rest.isEmpty then .error .endInString
    else pure ⟨(), rest, Nat.lt_of_le_of_lt (length_dropWhile_le _ head.rest) head.shorter⟩

/-- Passes over a value with the given number of levels below it. -/
def skip : (room : Nat) → Reader Unit
  | 0 => skipWith none
  | room + 1 => skipWith (some (skip room))

/-- Reads a whole text: nothing but blanks may follow the value. -/
def readAll (reader : Reader α) (input : Bytes) : Except Fault α := do
  let read ← reader input
  if read.rest.all isBlank then pure read.value else .error .trailingCharacters

end SwapDesk.Wire
