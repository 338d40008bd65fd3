import SwapDesk.Protobuf.Writer

/-! Reading protobuf. A message is a row of fields in any order; of a field that comes twice
the last value counts, and fields of unknown numbers are passed over. -/

namespace SwapDesk.Protobuf

inductive Problem where
  | varint
  | keyValue (value : Nat)
  | kindValue (value : Nat)
  | fieldZero
  | underflow
  | notText
  | kind (actual expected : Nat)
  | overrun
  | endGroup
  | tooDeep
  | typeUrl (expected actual : String)
  deriving DecidableEq

/-- A problem and the fields that lead to it, outermost first. -/
structure Fault where
  place : List (String × String) := []
  problem : Problem
  deriving DecidableEq

private def kindTitle (kind : Nat) : String :=
  match kind with
  | 0 => "Varint"
  | 1 => "SixtyFourBit"
  | 2 => "LengthDelimited"
  | 3 => "StartGroup"
  | 4 => "EndGroup"
  | _ => "ThirtyTwoBit"

def Problem.message : Problem → String
  | .varint => "invalid varint"
  | .keyValue value => "invalid key value: " ++ value.repr
  | .kindValue value => "invalid wire type value: " ++ value.repr
  | .fieldZero => "invalid tag value: 0"
  | .underflow => "buffer underflow"
  | .notText => "invalid string value: data is not UTF-8 encoded"
  | .kind actual expected =>
    "invalid wire type: " ++ kindTitle actual ++ " (expected " ++ kindTitle expected ++ ")"
  | .overrun => "delimited length exceeded"
  | .endGroup => "unexpected end group tag"
  | .tooDeep => "recursion limit reached"
  | .typeUrl expected actual =>
    "expected type URL: \"" ++ expected ++ "\" (got: \"" ++ actual ++ "\")"

def Fault.message (fault : Fault) : String :=
  "failed to decode Protobuf message: " ++
    String.join (fault.place.map fun (type, field) => type ++ "." ++ field ++ ": ") ++
    fault.problem.message

def Fault.inside (type field : String) (fault : Fault) : Fault :=
  { fault with place := (type, field) :: fault.place }

abbrev Reader (α : Type) := (input : Bytes) → Except Fault (Read α input)

variable {α σ : Type}

private def fail {β : Type} (problem : Problem) : Except Fault β := .error { problem }

/-- The groups of a number, of which `count` more may follow; the tenth may hold one bit. -/
def varintWithin : (count : Nat) → Reader Nat
  | _, [] => fail .varint
  | 0, first :: rest =>
    if first.toNat < 2 then .ok ⟨first.toNat, rest, by simp⟩ else fail .varint
  | count + 1, first :: rest =>
    if first.toNat < 128 then .ok ⟨first.toNat, rest, by simp⟩
    else do
      let high ← varintWithin count rest
      pure ⟨first.toNat % 128 + 128 * high.value, high.rest, Nat.lt_succ_of_lt high.shorter⟩

def readVarint : Reader Nat := varintWithin 9

def readKey : Reader (Nat × Nat) := fun input => do
  let key ← readVarint input
  if 2 ^ 32 ≤ key.value then fail (.keyValue key.value)
  else if 5 < key.value % 8 then fail (.kindValue (key.value % 8))
  else if key.value / 8 = 0 then fail .fieldZero
  else pure (key.map fun key => (key / 8, key % 8))

/-- So many bytes after what has been read. -/
private def skipBytes {input : Bytes} (count : Nat) (read : Read α input) :
    Except Fault (Read Unit input) :=
  if read.rest.length < count then fail .underflow
  else pure ⟨(), read.rest.drop count, by have := read.shorter; simp; omega⟩

private def skipFixed (count : Nat) : Reader Unit := fun input =>
  if short : input.length < count ∨ count = 0 then fail .underflow
  else pure ⟨(), input.drop count, by simp; omega⟩

/-- Passes over the fields of a group up to its end. -/
def skipGroup (skipField : (kind field : Nat) → Reader Unit) (group : Nat) : Reader Unit :=
  fun input => do
    let key ← readKey input
    if key.value.2 = 4 then
      if key.value.1 = group then pure (key.map fun _ => ()) else fail .endGroup
    else
      let skipped ← skipField key.value.2 key.value.1 key.rest
      let others ← skipGroup skipField group skipped.rest
      pure (others.behind (Nat.lt_trans skipped.shorter key.shorter))
termination_by input => input.length
decreasing_by exact Nat.lt_trans skipped.shorter key.shorter

/-- Passes over a field that no one knows, with so many groups inside each other. -/
def skipField : (depth : Nat) → (kind field : Nat) → Reader Unit
  | 0, _, _, _ => fail .tooDeep
  | depth + 1, kind, field, input =>
    match kind with
    | 0 => do pure ((← readVarint input).map fun _ => ())
    | 1 => skipFixed 8 input
    | 2 => do
      let length ← readVarint input
      skipBytes length.value length
    | 3 => skipGroup (skipField depth) field input
    | 4 => fail .endGroup
    | _ => skipFixed 4 input

/-- How many messages and groups may stand inside each other. -/
def levels : Nat := 100

private def expectKind (actual expected : Nat) : Except Fault Unit :=
  if actual = expected then pure () else fail (.kind actual expected)

def readNumber (kind : Nat) : Reader Nat := fun input => do
  expectKind kind 0
  readVarint input

def readBytes (kind : Nat) : Reader Bytes := fun input => do
  expectKind kind 2
  let length ← readVarint input
  if length.rest.length < length.value then fail .underflow
  else pure ⟨length.rest.take length.value, length.rest.drop length.value,
    by have := length.shorter; simp; omega⟩

def readText (kind : Nat) : Reader String := fun input => do
  let bytes ← readBytes kind input
  match Text.ofBytes? bytes.value with
  | some text => pure (bytes.map fun _ => text)
  | none => fail .notText

/-- How a message takes in a field: by its number, its kind and the state so far. -/
abbrev Merge (σ : Type) := (field kind : Nat) → σ → Reader σ

/-- Takes in fields until no more than `limit` bytes are left. -/
def mergeUntil (merge : Merge σ) (limit : Nat) (state : σ) (input : Bytes) :
    Except Fault { result : σ × Bytes // result.2.length ≤ input.length } :=
  if input.length ≤ limit then pure ⟨(state, input), Nat.le_refl _⟩
  else do
    let key ← readKey input
    let next ← merge key.value.1 key.value.2 state key.rest
    let ⟨result, within⟩ ← mergeUntil merge limit next.value next.rest
    pure ⟨result, Nat.le_trans within (Nat.le_of_lt (Nat.lt_trans next.shorter key.shorter))⟩
termination_by input.length
decreasing_by exact Nat.lt_trans next.shorter key.shorter

def readMessage (merge : Merge σ) (kind : Nat) (state : σ) : Reader σ := fun input => do
  expectKind kind 2
  let length ← readVarint input
  if length.rest.length < length.value then fail .underflow
  else
    let limit := length.rest.length - length.value
    let ⟨(state, rest), within⟩ ← mergeUntil merge limit state length.rest
    if rest.length = limit then pure ⟨state, rest, Nat.lt_of_le_of_lt within length.shorter⟩
    else fail .overrun

def decode (merge : Merge σ) (initial : σ) (input : Bytes) : Except Fault σ := do
  let ⟨(state, _), _⟩ ← mergeUntil merge 0 initial input
  pure state

/-- The fields by which a typed message inside another message is taken in. -/
def Typed.merge : Merge Typed := fun field kind typed input =>
  match field with
  | 1 => do
    let url ← (readText kind input).mapError (·.inside "Any" "type_url")
    pure (url.map fun typeUrl => { typed with typeUrl })
  | 2 => do
    let content ← (readBytes kind input).mapError (·.inside "Any" "value")
    pure (content.map fun content => { typed with content })
  | _ => do pure ((← skipField (levels - 1) kind field input).map fun _ => typed)

/-- The name of a type: what stands behind the last slash of its URL. -/
def typeName? (url : String) : Option String :=
  let symbols := url.toList
  let name := (symbols.reverse.takeWhile (· ≠ '/')).reverse
  if name.length = symbols.length || name.head? == some '.' then none
  else some (String.ofList name)

/-- Decodes a typed message that has to be of one type. -/
def Typed.decode (typed : Typed) (url : String) (merge : Merge σ) (initial : σ) :
    Except Fault σ :=
  if (typeName? typed.typeUrl).isSome && typeName? typed.typeUrl == typeName? url then
    Protobuf.decode merge initial typed.content
  else .error ⟨[("unexpected type URL", "type_url")], .typeUrl url typed.typeUrl⟩

end SwapDesk.Protobuf
