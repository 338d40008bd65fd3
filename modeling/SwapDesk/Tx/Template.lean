import SwapDesk.Tx.Body
import SwapDesk.Wire.Embedded

/-! Templates of transaction bodies. A template keeps a sender and a contract; a payload
passes through it and is gone afterwards. -/

namespace SwapDesk.Tx

structure Template where
  sender : String
  contract : String
  payload : Bytes := []

namespace Template

/-- A message that could not be written, for the reason given. -/
structure Unwritable where
  reason : String

def Unwritable.trail (error : Unwritable) : Trail :=
  ⟨"Failed to serialize contract message!", [error.reason]⟩

def applyRaw (payload : Bytes) : StateM Template Body := do
  modify ({ · with payload })
  let template ← get
  let execution : Execution := ⟨template.sender, template.contract, template.payload, []⟩
  modify ({ · with payload := [] })
  pure { messages := [execution] }

def apply (message : Draft) : StateM Template (Except Unwritable Body) :=
  match message with
  | .ok json => .ok <$> applyRaw json.bytes
  | .error reason => pure (.error ⟨reason⟩)

end Template

end SwapDesk.Tx
