import SwapDesk.Tx.Fee

/-! Transaction bodies. The only messages sent here are executions of contracts. -/

namespace SwapDesk.Tx

structure Execution where
  sender : String
  contract : String
  message : Bytes
  funds : List Coin := []

def Execution.typeUrl : String := "/cosmwasm.wasm.v1.MsgExecuteContract"

def Execution.encode (execution : Execution) : Bytes :=
  Protobuf.text 1 execution.sender ++ Protobuf.text 2 execution.contract ++
    Protobuf.bytes 3 execution.message ++ Protobuf.repeated 5 Coin.encode execution.funds

structure Body where
  messages : List Execution
  memo : String := ""
  timeoutHeight : Nat := 0

def Body.encode (body : Body) : Bytes :=
  Protobuf.repeated 1 (fun execution =>
      Protobuf.Typed.encode ⟨Execution.typeUrl, Execution.encode execution⟩) body.messages ++
    Protobuf.text 2 body.memo ++ Protobuf.number 3 body.timeoutHeight

end SwapDesk.Tx
