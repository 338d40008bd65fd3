import SwapDesk.Contract.Pool.Reply
import SwapDesk.Contract.Token
import SwapDesk.Contract.Vault.Exit
import SwapDesk.Contract.Vault.Reply
import SwapDesk.Wire.Embedded

/-! The types that travel on the wire, by name. A name that the pools and the vault share is
told apart by the contract. -/

namespace SwapDesk

/-- A wire type. `isOutgoing` says whether values of it are written as well as read, and
`plain` gives the plain text of a value, for the types that have one. -/
structure Form where
  Carrier : Type
  wire : Wire Carrier
  isOutgoing : Bool
  plain : Carrier → Option String := fun _ => none

namespace Form

def incoming (α : Type) [wire : Wire α] : Form := { Carrier := α, wire, isOutgoing := false }

def twoWay (α : Type) [wire : Wire α] : Form := { Carrier := α, wire, isOutgoing := true }

def simple {α : Type} [wire : Wire α] (plain : α → String) : Form :=
  { Carrier := α, wire, isOutgoing := true, plain := fun value => some (plain value) }

def catalogue : List (String × Form) :=
  [("Uint128", simple Amount.text), ("Decimal", simple Decimal.text), ("Binary", twoWay Payload),
   ("AssetInfo", simple AssetInfo.label), ("Asset", twoWay Asset),
   ("PoolKind", simple PoolKind.name), ("SwapType", twoWay SwapSide),
   ("Expiration", twoWay Expiration), ("FeeInfo", twoWay Vault.FeeTerms),
   ("PoolConfig", twoWay Vault.PoolTerms), ("SingleSwapRequest", twoWay Vault.SwapOrder),
   ("Cw20HookMsg", twoWay Vault.Hook), ("BalanceResponse", incoming Token.Balance),
   ("pool.ConfigResponse", incoming Pool.Config), ("FeeResponse", incoming Pool.Fees),
   ("ResponseType", incoming Pool.Verdict), ("AfterJoinResponse", incoming Pool.AfterJoin),
   ("AfterExitResponse", incoming Pool.AfterExit), ("Trade", incoming Pool.Trade),
   ("SwapResponse", incoming Pool.AfterSwap), ("AssetExchangeRate", incoming Pool.ExchangeRate),
   ("CumulativePriceResponse", incoming Pool.CumulativePrice),
   ("CumulativePricesResponse", incoming Pool.CumulativePrices),
   ("vault.ConfigResponse", incoming Vault.Config), ("PauseInfo", incoming Vault.Pause),
   ("PoolInfo", incoming Vault.PoolInfo)]

variable (form : Form)

def decode (bytes : Bytes) : Except Wire.Fault form.Carrier :=
  let _ := form.wire
  Wire.decode bytes

def extract (payload : Payload) : Except Payload.Error form.Carrier :=
  let _ := form.wire
  payload.extract

def describe (value : form.Carrier) : String :=
  let _ := form.wire
  Wire.describe value

/-- The JSON text of a value, if values of the type are written. -/
def text? (value : form.Carrier) : Option String :=
  let _ := form.wire
  if form.isOutgoing then some (Wire.text value) else none

end Form

end SwapDesk
