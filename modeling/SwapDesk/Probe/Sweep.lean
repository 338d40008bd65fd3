import SwapDesk.Contract.Pool.Reply
import SwapDesk.Contract.Vault.Reply
import SwapDesk.Desk.Query
import SwapDesk.Registry.Network

/-! The sweep: every read-only question to the vault of a network, to its pools and to its test
tokens, and a word in the log on the outcome. No answer changes what is asked next. -/

namespace SwapDesk.Probe

variable {ν ω : Type} [ChainAccess ν]

def report {α : Type} [Wire α] (subject operation : String) : QueryResult α → Event
  | .response value => .answered subject operation (Wire.describe value)
  | .absent failure => .unanswered subject operation failure

/-- What the log says of the number that a pool gives itself. An absent answer has been logged
already. -/
def compare (name : String) (pool : Registry.Descriptor) : QueryResult Amount → List Event
  | .response id =>
    if id.value = pool.id.toNat then [.idMatches name id] else [.idDiffers name id pool.id]
  | .absent _ => []

def askPool (name : String) (pool : Registry.Descriptor) : StateM (Desk ν ω) Unit := do
  let config : QueryResult Pool.Config ← Desk.askPool pool.address .config
  Desk.emit [report name "config" config]
  let fees : QueryResult Pool.Fees ← Desk.askPool pool.address .feeParams
  Desk.emit [report name "fee_params" fees]
  let id : QueryResult Amount ← Desk.askPool pool.address .poolId
  Desk.emit (compare name pool id)
  let prices : QueryResult Pool.CumulativePrices ← Desk.askPool pool.address .cumulativePrices
  Desk.emit [report name "cumulative_prices" prices]

/-- Asks the vault about a pool, by its number and by its address. -/
def askVaultAbout (vault name : String) (pool : Registry.Descriptor) :
    StateM (Desk ν ω) Unit := do
  let byId : QueryResult Vault.PoolInfo ← Desk.askVault vault (.poolById (.ofUInt64 pool.id))
  Desk.emit [report name "get_pool_by_id" byId]
  let byAddress : QueryResult Vault.PoolInfo ← Desk.askVault vault (.poolByAddress pool.address)
  Desk.emit [report name "get_pool_by_address" byAddress]

def sweepPool (vault name : String) (pool : Registry.Descriptor) : StateM (Desk ν ω) Unit := do
  Desk.emit [.probing name pool.id pool.kind pool.address]
  askPool name pool
  askVaultAbout vault name pool

def sweepToken (account token : String) : StateM (Desk ν ω) Unit := do
  let balance ← Desk.balance token account
  Desk.emit [report token "balance" balance]

/-- Asks the vault, then each pool in the order of names, then each test token. -/
def sweep [Wallet ω] (network : Registry.Network) : StateM (Desk ν ω) Unit := do
  let config : QueryResult Vault.Config ← Desk.askVault network.vault .config
  Desk.emit [report "vault" "config" config]
  network.pools.forM fun (name, pool) => sweepPool network.vault name pool
  let account := Wallet.address (← get).wallet
  network.testTokens.forM (sweepToken account)

end SwapDesk.Probe
