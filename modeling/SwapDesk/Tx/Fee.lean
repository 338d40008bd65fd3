import SwapDesk.Amount
import SwapDesk.Protobuf.Writer
import SwapDesk.Text.Quoted
import SwapDesk.Trail

/-! Coins and transaction fees. -/

namespace SwapDesk.Tx

/-- A denomination has 3 to 128 letters, digits and marks out of five. -/
def isDenom (text : String) : Bool :=
  3 ≤ text.utf8ByteSize && text.utf8ByteSize ≤ 128 &&
    text.toList.all fun c => c.isAlphanum || c ∈ ['/', ':', '.', '_', '-']

structure Denom where
  text : String
  valid : isDenom text = true

structure DenomFault where
  text : String

def DenomFault.trail (fault : DenomFault) : Trail :=
  ⟨"Invalid fee denomination " ++ Text.quoted fault.text ++ "!",
   ["invalid denomination: " ++ Text.quoted fault.text]⟩

def Denom.ofText (text : String) : Except DenomFault Denom :=
  if valid : isDenom text = true then .ok ⟨text, valid⟩ else .error ⟨text⟩

structure Coin where
  amount : Amount
  denom : Denom

def Coin.text (coin : Coin) : String := coin.amount.text ++ coin.denom.text

def Coin.encode (coin : Coin) : Bytes :=
  Protobuf.text 1 coin.denom.text ++ Protobuf.text 2 coin.amount.text

/-- What a sender is ready to pay: the most gas, and an amount of whatever coin fees are
paid in. -/
structure Fee where
  gasLimit : UInt64
  amount : Amount

/-- A fee in full: the coins, the gas, and who pays when it is not the signer. -/
structure FullFee where
  coins : List Coin
  gasLimit : UInt64
  payer : String := ""
  granter : String := ""

def Fee.inCoin (fee : Fee) (denom : String) : Except DenomFault FullFee :=
  (Denom.ofText denom).map fun denom => { coins := [⟨fee.amount, denom⟩], gasLimit := fee.gasLimit }

def FullFee.encode (fee : FullFee) : Bytes :=
  Protobuf.repeated 1 Coin.encode fee.coins ++ Protobuf.number 2 fee.gasLimit.toNat ++
    Protobuf.text 3 fee.payer ++ Protobuf.text 4 fee.granter

end SwapDesk.Tx
