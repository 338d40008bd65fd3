import SwapDesk.Environment
import SwapDesk.Key.Signing
import SwapDesk.Registry.Basic

/-! The configuration of the probe, read from the environment. A default stands in only for
a variable that is unset. -/

namespace SwapDesk.Probe

structure Configuration where
  network : Registry.Network
  uri : String
  key : Key.Signing

namespace Configuration

inductive Error where
  | networkName (cause : Environment.Error)
  | network (cause : Registry.Fault)
  | uri (cause : Environment.Error)
  | path (cause : Environment.Error)
  | mnemonic (cause : Environment.Error)
  | key (cause : Key.Error)

def Error.trail : Error → Trail
  | .networkName cause => cause.trail.within "Failed to read network's name!"
  | .network cause => ⟨"Failed to resolve network configuration!", [cause.message]⟩
  | .uri cause => cause.trail.within "Failed to read node's gRPC URI!"
  | .path cause => cause.trail.within "Failed to read signing key's derivation path!"
  | .mnemonic cause => cause.trail.within "Failed to read signing key's mnemonic!"
  | .key cause => cause.trail.within "Failed to derive signing key from mnemonic!"

def read (environment : Environment) : Except Error Configuration := do
  let name ← (environment.text? "DEXTER_NETWORK").mapError .networkName
  let network ← (Registry.resolve (name.getD Registry.defaultNetwork)).mapError .network
  let uri ← (environment.text? "NODE_GRPC_URI").mapError .uri
  let path ← (environment.text? "SIGNING_KEY_DERIVATION_PATH").mapError .path
  let mnemonic ← (environment.text "SIGNING_KEY_MNEMONIC").mapError .mnemonic
  let key ← (Key.ofMnemonic mnemonic "" (path.getD Key.defaultPath)).mapError .key
  pure ⟨network, uri.getD network.grpcEndpoint, key⟩

end Configuration

end SwapDesk.Probe
