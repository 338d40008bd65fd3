import SwapDesk.Wire.Basic

/-! Messages of a token contract: transfers with a payload, allowances and balances. -/

namespace SwapDesk

/-- When an allowance ends. The time counts nanoseconds since the Unix epoch. -/
inductive Expiration where
  | atHeight (height : UInt64)
  | atTime (time : Amount)
  | never
  deriving DecidableEq

instance : Wire Expiration where
  shape := .choice
    (.wrap "AtHeight" "at_height" .number64 <|
     .wrap "AtTime" "at_time" .amount <|
     .record "Never" "never" .nil .nil)
    { ofParts := fun
        | .inl height => .atHeight height
        | .inr (.inl time) => .atTime time
        | .inr (.inr (.inl ())) => .never
      parts := fun
        | .atHeight height => .inl height
        | .atTime time => .inr (.inl time)
        | .never => .inr (.inr (.inl ()))
      parts_ofParts := by rintro (_ | _ | _ | ⟨⟨⟩⟩) <;> rfl
      ofParts_parts := by rintro (_ | _ | _) <;> rfl }

namespace Token

inductive Action where
  | send (recipient : String) (amount : Amount) (message : Payload)
  | increaseAllowance (spender : String) (amount : Amount) (expires : Option Expiration)

def Action.name : Action → String
  | .send .. => "send"
  | .increaseAllowance .. => "increase_allowance"

instance : Wire Action where
  shape := .choice
    (.record "Send" "send"
       (.required "contract" .text <|
        .required "amount" .amount <|
        .required "msg" .payload .nil) <|
     .record "IncreaseAllowance" "increase_allowance"
       (.required "spender" .text <|
        .required "amount" .amount <|
        .optional "expires" Wire.shape .nil) .nil)
    { ofParts := fun
        | .inl (recipient, amount, message, ()) => .send recipient amount message
        | .inr (.inl (spender, amount, expires, ())) => .increaseAllowance spender amount expires
      parts := fun
        | .send recipient amount message => .inl (recipient, amount, message, ())
        | .increaseAllowance spender amount expires => .inr (.inl (spender, amount, expires, ()))
      parts_ofParts := by rintro (_ | _ | ⟨⟨⟩⟩) <;> rfl
      ofParts_parts := by rintro (_ | _) <;> rfl }

inductive Query where
  | balance (address : String)

def Query.name : Query → String
  | .balance _ => "balance"

instance : Wire Query where
  shape := .choice (.record "Balance" "balance" (.required "address" .text .nil) .nil)
    { ofParts := fun | .inl (address, ()) => .balance address
      parts := fun | .balance address => .inl (address, ())
      parts_ofParts := by rintro (_ | ⟨⟨⟩⟩); rfl
      ofParts_parts := by rintro ⟨⟩; rfl }

structure Balance where
  amount : Amount

instance : Wire Balance where
  shape := .record "BalanceResponse" (.required "balance" .amount .nil)
    { ofParts := fun (amount, ()) => ⟨amount⟩
      parts := fun balance => (balance.amount, ()) }

end Token

end SwapDesk
