import SwapDesk.Amount
import SwapDesk.Base64

/-! Why bytes are no value of the expected form. -/

namespace SwapDesk.Wire

inductive Fault where
  | controlCharacter
  | endInList
  | endInObject
  | endInString
  | endInValue
  | expectedColon
  | expectedHighSurrogate
  | expectedListComma
  | expectedLowSurrogate
  | expectedObjectComma
  | expectedWord
  | expectedValue
  | invalidEscape
  | invalidNumber
  | invalidType
  | invalidCodePoint
  | keyNotText
  | loneSurrogate
  | trailingCharacters
  | trailingComma
  | tooDeep
  | duplicateField (name : String)
  | missingField (name : String)
  | unknownVariant (name : String) (known : List String)
  | amount (text : String) (cause : Numeral.Fault)
  | decimal (cause : Decimal.Fault)
  | base64 (cause : Base64.Fault)
  deriving DecidableEq

private def ticked (name : String) : String := "`" ++ name ++ "`"

/-- The names that could have stood in the place of an unknown one. -/
private def alternatives : List String → String
  | [] => "there are no variants"
  | [only] => "expected " ++ ticked only
  | [first, second] => "expected " ++ ticked first ++ " or " ++ ticked second
  | known => "expected one of " ++ ", ".intercalate (known.map ticked)

def Fault.message : Fault → String
  | .controlCharacter => "Control character found in string."
  | .endInList => "EOF while parsing a list."
  | .endInObject => "EOF while parsing an object."
  | .endInString => "EOF while parsing a string."
  | .endInValue => "EOF while parsing a JSON value."
  | .expectedColon => "Expected this character to be a `':'`."
  | .expectedHighSurrogate => "Expected a high surrogate (D800–DBFF)."
  | .expectedListComma => "Expected this character to be either a `','` ora `']'`."
  | .expectedLowSurrogate => "Expected a low surrogate (DC00–DFFF)."
  | .expectedObjectComma => "Expected this character to be either a `','` or a `'\x7d'`."
  | .expectedWord => "Expected to parse either a `true`, `false`, or a `null`."
  | .expectedValue => "Expected this character to start a JSON value."
  | .invalidEscape => "Invalid escape sequence."
  | .invalidNumber => "Invalid number."
  | .invalidType => "Invalid type"
  | .invalidCodePoint => "Invalid unicode code point."
  | .keyNotText => "Object key is not a string."
  | .loneSurrogate =>
    "Found a lone surrogate, which can exist in JSON but cannot be encoded to UTF-8."
  | .trailingCharacters => "JSON has non-whitespace trailing characters after the value."
  | .trailingComma => "JSON has a comma after the last value in an array or map."
  | .tooDeep => "JSON is nested too deeply, exceeded the recursion limit."
  | .duplicateField name => "duplicate field " ++ ticked name
  | .missingField name => "missing field " ++ ticked name
  | .unknownVariant name known => "unknown variant " ++ ticked name ++ ", " ++ alternatives known
  | .amount text cause =>
    "invalid 128-bit amount " ++ Text.quoted text ++ ": " ++ cause.message
  | .decimal cause => cause.message
  | .base64 cause => cause.message

end SwapDesk.Wire
