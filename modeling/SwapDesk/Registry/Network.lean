import SwapDesk.Registry.Descriptor

/-! Networks and the contracts deployed on them. -/

namespace SwapDesk.Registry

structure Network where
  name : String
  chainId : String
  feeDenom : String
  accountHrp : String
  grpcEndpoint : String
  restEndpoint : String
  vault : String
  testTokens : List String
  pools : List (String × Descriptor)
  sorted : (pools.map Prod.fst).Pairwise (· < ·)

namespace Network

def vaultSymbol : String := "vault_contract_address"

/-- What follows a pool's label in the symbol of the pool. -/
def poolEnding : String := "_pool_addr"

/-- What follows a pool's label in the symbol of its LP token. -/
def lpTokenEnding : String := "_lp_token_addr"

/-- Refuses a network in which something is empty. -/
def validated (network : Network) : Except Fault Network :=
  let parts :=
    [("chain ID", network.chainId), ("fee denomination", network.feeDenom),
     ("account prefix", network.accountHrp), ("node endpoint", network.grpcEndpoint),
     ("REST endpoint", network.restEndpoint), ("vault address", network.vault)] ++
    network.testTokens.map fun token => ("test token address", token)
  match parts.find? fun part => part.2.isEmpty with
  | some (part, _) => .error (.emptyNetworkField network.name part)
  | none => .ok network

def pool (network : Network) (name : String) : Except Fault Descriptor :=
  match network.pools.lookup name with
  | some pool => .ok pool
  | none => .error (.unknownPool network.name name)

/-- What comes before an ending, in a symbol that has it. -/
def stem? (ending symbol : String) : Option String :=
  (ending.toList.isSuffixOf? symbol.toList).map String.ofList

/-- The address of a pool that a symbol stands for. -/
def addressIn (symbol : String) (pool : Descriptor) : Option String :=
  if stem? poolEnding symbol = some pool.label then some pool.address
  else if stem? lpTokenEnding symbol = some pool.label then some pool.lpToken
  else none

/-- The address of the contract with a symbol. Pools are tried in the order of their names. -/
def contractAddress (network : Network) (symbol : String) : Except Fault String :=
  if symbol = vaultSymbol then .ok network.vault
  else match network.pools.findSome? fun entry => addressIn symbol entry.2 with
    | some address => .ok address
    | none => .error (.unknownContract network.name symbol)

end Network

end SwapDesk.Registry
