import SwapDesk.Probe.Run

/-! The probe as a program. It has no way to reach the network: every address is one at which
nobody listens. -/

namespace SwapDesk

/-- A place from which no link can be made. -/
inductive Offline where
  | offline

instance : Node.Endpoint Offline where
  Link := Empty
  dial _ := pure (.error ⟨["transport error", "tcp connect error", "Network is unreachable"]⟩)
  send := nofun

def probeVariables : List String :=
  ["DEXTER_NETWORK", "NODE_GRPC_URI", "SIGNING_KEY_DERIVATION_PATH", "SIGNING_KEY_MNEMONIC",
   "OUTPUT_JSON", "DEBUG_LOGGING"]

end SwapDesk

open SwapDesk in
def main : IO UInt32 := do
  let assignments ← probeVariables.filterMapM fun name => do
    pure ((← IO.getEnv name).map fun value => (name, Text.bytes value))
  let (outcome, _) := (Probe.run (.ofList assignments)).run Offline.offline
  for event in outcome.log do
    IO.println (outcome.logging.line event)
  IO.eprint outcome.complaint
  pure (UInt32.ofNat outcome.exitCode)
