import SwapDesk.Trail
import SwapDesk.Wire.Basic

/-! Messages inside payloads. -/

namespace SwapDesk

/-- A message on its way to becoming JSON: its value, or the reason why its author cannot
write it. -/
abbrev Draft := Except String Json

namespace Payload

inductive Error where
  | notBase64 (cause : Base64.Fault)
  | unwritable (reason : String)
  | unreadable (cause : Wire.Fault)

def Error.trail : Error → Trail
  | .notBase64 cause => ⟨"Payload is not valid padded base64!", [cause.message]⟩
  | .unwritable reason =>
    ⟨"Failed to serialize embedded message into JSON format!", [reason]⟩
  | .unreadable cause => ⟨"Failed to parse embedded message from JSON format!", [cause.message]⟩

def read (text : String) : Except Error Payload := (ofBase64 text).mapError .notBase64

def embed : Draft → Except Error Payload
  | .ok message => .ok ⟨message.bytes⟩
  | .error reason => .error (.unwritable reason)

def extract {α : Type} [Wire α] (payload : Payload) : Except Error α :=
  (Wire.decode payload.bytes).mapError .unreadable

end Payload

end SwapDesk
