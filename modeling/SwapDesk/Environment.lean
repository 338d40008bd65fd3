import SwapDesk.Text.Quoted
import SwapDesk.Trail

/-! Environment variables. A variable is kept as one entry, its name and its value with an
equals sign between them. A value is bytes; only a value that is text can be read. -/

namespace SwapDesk

structure Environment where
  assignments : List (String × Bytes)

namespace Environment

/-- Names that are empty or hold an equals sign or a NUL name no variable. -/
def isName (name : String) : Bool :=
  !name.isEmpty && name.toList.all fun c => c ≠ '=' && c ≠ '\x00'

/-- The environment with the given values; what is no name is left out. -/
def ofList (assignments : List (String × Bytes)) : Environment :=
  ⟨assignments.filter fun assignment => isName assignment.1⟩

def entry (name : String) (value : Bytes) : Bytes := Text.bytes name ++ '='.toUInt8 :: value

/-- What follows a name and an equals sign in the first entry that begins with them. A name
with an equals sign of its own finds the rest of a value. -/
def value? (environment : Environment) (name : String) : Option Bytes :=
  if name.isEmpty then none
  else environment.assignments.findSome? fun (known, value) =>
    (entry name []).isPrefixOf? (entry known value)

inductive Error where
  | unset (name : String)
  | unreadable (name : String) (value : Bytes)
  | notText (name : String) (value : Bytes)
  deriving DecidableEq

private def noText (value : Bytes) : String :=
  "environment variable was not valid unicode: " ++ Text.quotedBytes value

def Error.trail : Error → Trail
  | .unset name =>
    ⟨"Failed to read environment variable " ++ Text.quoted name ++ "!",
     ["environment variable not found"]⟩
  | .unreadable name value =>
    ⟨"Failed to read environment variable " ++ Text.quoted name ++ "!", [noText value]⟩
  | .notText name value =>
    ⟨"Environment variable " ++ Text.quoted name ++ " is not valid unicode!", [noText value]⟩

/-- The text of a variable that has to be set. -/
def text (environment : Environment) (name : String) : Except Error String :=
  match environment.value? name with
  | none => .error (.unset name)
  | some value =>
    match Text.ofBytes? value with
    | some text => .ok text
    | none => .error (.unreadable name value)

/-- The text of a variable that may be unset. A value that is no text is still an error. -/
def text? (environment : Environment) (name : String) : Except Error (Option String) :=
  match environment.value? name with
  | none => .ok none
  | some value =>
    match Text.ofBytes? value with
    | some text => .ok (some text)
    | none => .error (.notText name value)

def isTruthy (text : String) : Bool := text ∈ ["1", "y", "Y", "yes", "true"]

def flag (environment : Environment) (name : String) : Except Error Bool :=
  (environment.text name).map isTruthy

def flag? (environment : Environment) (name : String) : Except Error (Option Bool) :=
  (environment.text? name).map (·.map isTruthy)

end Environment

end SwapDesk
