import SwapDesk.Desk.Watched
import SwapDesk.Rehearsal.Script

/-! A chain and a wallet in memory that do what a script says. -/

namespace SwapDesk.Rehearsal

/-- What a chain without a script says to a query. -/
def noContract : QueryFailure := ⟨.rejected, "no such contract"⟩

/-- A chain that answers queries by a script, and all transactions and all questions for its
height alike. -/
structure Chain where
  script : Script (Except QueryFailure Bytes) := { otherwise := .error noContract }
  response : Except String Tx.Response := .ok {}
  height : Except String Nat := .ok 0

private def plainly {α : Type} (outcome : Except String α) : Except Trail α :=
  outcome.mapError fun text => ⟨text, []⟩

instance : ChainAccess Chain where
  smart contract query := fun chain =>
    let (answer, script) := chain.script.next contract query
    (answer, { chain with script })
  broadcast _ := fun chain => (plainly chain.response, chain)
  latestHeight := fun chain => (plainly chain.height, chain)

/-- A wallet without a key: what it signs carries the body and nothing else. `refusal` is the
error of all signing. -/
structure Purse where
  address : String
  refusal : Option String := none

instance : Wallet Purse where
  address purse := purse.address
  sign body _ := fun purse =>
    let outcome : Except Trail Tx.Signed := match purse.refusal with
      | some text => .error ⟨text, []⟩
      | none => .ok { body := body.encode }
    (outcome, purse)
  commit purse := .ok (purse, [])

/-- A desk in memory whose chain and wallet are watched. -/
abbrev MemoryDesk := Desk (WatchedChain Chain) (WatchedWallet Purse)

def MemoryDesk.start (chain : Chain) (purse : Purse) : MemoryDesk :=
  { chain := { inner := chain }, wallet := { inner := purse } }

/-- The desk before its next errand: a new script, and nothing on record but the count of
transactions taken in. -/
def MemoryDesk.prepare (chain : Chain) (refusal : Option String) (desk : MemoryDesk) :
    MemoryDesk :=
  { chain := { inner := chain }
    wallet := { inner := { desk.wallet.inner with refusal }, commits := desk.wallet.commits } }

end SwapDesk.Rehearsal
