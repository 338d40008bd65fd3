import SwapDesk.Registry.Testnet

/-! The registry of the networks that are built in. -/

namespace SwapDesk

/-- Networks in ascending order of their names, under a version that counts the changes to
an address or a description. -/
structure Registry where
  version : Nat
  networks : List Registry.Network

namespace Registry

def defaultNetwork : String := "testnet"

def builtIn : Except Fault Registry :=
  Testnet.network.validated.map fun testnet => ⟨1, [testnet]⟩

def network (registry : Registry) (name : String) : Except Fault Network :=
  match registry.networks.find? (·.name = name) with
  | some network => .ok network
  | none => .error (.unknownNetwork name)

def resolve (name : String) : Except Fault Network := do
  let registry ← builtIn
  registry.network name

end Registry

end SwapDesk
