import SwapDesk.Proofs.SweepFindings

/-! The itinerary of the sweep. What is asked and in which order is settled by the network and the
wallet before the first answer comes in, so no answer can change it. -/

namespace SwapDesk

namespace Desk

variable {ν ω α β : Type} [ChainAccess ν]

theorem poll_watched (requests : List Request) (watched : WatchedChain ν) :
    (poll requests watched).inner = poll requests watched.inner ∧
      (poll requests watched).queries.map Asked.sent =
        watched.queries.map Asked.sent ++ requests.map Request.sent ∧
      (poll requests watched).broadcasts = watched.broadcasts := by
  induction requests generalizing watched with
  | nil => exact ⟨rfl, (List.append_nil _).symm, rfl⟩
  | cons request requests ih =>
    obtain ⟨inner, queries, broadcasts⟩ :=
      ih (ChainAccess.smart request.contract request.payload watched).2
    refine ⟨inner, ?_, broadcasts⟩
    refine queries.trans ?_
    change (watched.queries ++ [_]).map Asked.sent ++ _ = _
    rw [List.map_append, List.append_assoc]
    rfl

theorem poll_answers (requests : List Request) (watched : WatchedChain ν) :
    (poll requests watched).queries.map Asked.answer =
      watched.queries.map Asked.answer ++ answers requests watched := by
  induction requests generalizing watched with
  | nil => exact (List.append_nil _).symm
  | cons request requests ih =>
    refine (ih (ChainAccess.smart request.contract request.payload watched).2).trans ?_
    change (watched.queries ++ [_]).map Asked.answer ++ _ = _
    rw [List.map_append, List.append_assoc]
    rfl

/-- An action of a desk with the given wallet that sends the given requests, whatever is answered,
and leaves the wallet alone. -/
def Inquires (wallet : ω) (action : StateM (Desk ν ω) α) (requests : List Request) : Prop :=
  ∀ chain log, ∃ told, (action.run { chain, wallet, log }).2 =
    { chain := poll requests chain, wallet, log := log ++ told }

variable {wallet : ω}

theorem inquires_pure (value : α) : Inquires (ν := ν) wallet (pure value) [] :=
  fun _ log => ⟨[], by rw [List.append_nil]; rfl⟩

theorem inquires_emit (events : List Event) :
    Inquires (ν := ν) wallet (emit events) [] := fun _ _ => ⟨events, rfl⟩

theorem Inquires.bind {action : StateM (Desk ν ω) α} {next : α → StateM (Desk ν ω) β}
    {requests later : List Request} (first : Inquires wallet action requests)
    (second : ∀ value, Inquires wallet (next value) later) :
    Inquires wallet (action >>= next) (requests ++ later) := by
  intro chain log
  obtain ⟨told, reached⟩ := first chain log
  obtain ⟨told', ended⟩ := second (action.run { chain, wallet, log }).1 (poll requests chain)
    (log ++ told)
  refine ⟨told ++ told', ?_⟩
  rw [StateT.run_bind]
  change ((next _).run (action.run { chain, wallet, log }).2).2 = _
  rw [reached, ended, poll_append, List.append_assoc]

/-- An action may look at the desk, as long as its requests are settled by the wallet. -/
theorem Inquires.looking {next : Desk ν ω → StateM (Desk ν ω) α} {requests : List Request}
    (settled : ∀ desk : Desk ν ω, desk.wallet = wallet → Inquires wallet (next desk) requests) :
    Inquires wallet (get >>= next) requests :=
  fun chain log => settled { chain, wallet, log } rfl chain log

end Desk

namespace Probe

open Desk (Request Inquires)

variable {ν ω : Type} [ChainAccess ν] {wallet : ω}

/-- The requests about one pool, to the pool itself and then to the vault. -/
def poolVisit (vault : String) (pool : Registry.Descriptor) : List Request :=
  [⟨pool.address, "config", []⟩, ⟨pool.address, "fee_params", []⟩, ⟨pool.address, "pool_id", []⟩,
    ⟨pool.address, "cumulative_prices", []⟩,
    ⟨vault, "get_pool_by_id", [("pool_id", .text pool.id.toNat.repr)]⟩,
    ⟨vault, "get_pool_by_address", [("pool_addr", .text pool.address)]⟩]

/-- The requests of a whole sweep on behalf of an account. -/
def itinerary (network : Registry.Network) (account : String) : List Request :=
  ⟨network.vault, "config", []⟩ ::
    (network.pools.flatMap fun (_, pool) => poolVisit network.vault pool) ++
    network.testTokens.map fun token => ⟨token, "balance", [("address", .text account)]⟩

theorem stops_requests (network : Registry.Network) (account : String) :
    (stops network account).map Stop.request = itinerary network account := by
  have visits (pools : List (String × Registry.Descriptor)) :
      (pools.flatMap fun (name, pool) => poolStops network.vault name pool).map Stop.request =
        pools.flatMap fun (_, pool) => poolVisit network.vault pool := by
    rw [List.map_flatMap]
    exact List.flatMap_congr fun _ _ => rfl
  rw [stops, itinerary, List.map_append, List.map_cons, visits, List.map_map]
  rfl

theorem Recounts.inquires {α : Type} {action : StateM (Desk ν ω) α} {stops : List Stop}
    (recounts : Recounts wallet action stops) :
    Inquires wallet action (stops.map Stop.request) := by
  intro chain log
  obtain ⟨told, reached, _⟩ := recounts chain log
  exact ⟨told, reached⟩

theorem inquires_sweep [Wallet ω] (network : Registry.Network) :
    Inquires (ν := ν) wallet (sweep network) (itinerary network (Wallet.address wallet)) := by
  rw [← stops_requests]
  exact (recounts_sweep network).inquires

theorem length_itinerary (network : Registry.Network) (account : String) :
    (itinerary network account).length =
      1 + 6 * network.pools.length + network.testTokens.length := by
  have visits (pools : List (String × Registry.Descriptor)) :
      (pools.flatMap fun (_, pool) => poolVisit network.vault pool).length = 6 * pools.length := by
    induction pools with
    | nil => rfl
    | cons pool pools ih =>
      rw [List.flatMap_cons, List.length_append, ih, List.length_cons]
      change 6 + 6 * pools.length = _
      omega
  rw [itinerary, List.length_append, List.length_cons, visits, List.length_map]
  omega

theorem sweep_watched [Wallet ω] (network : Registry.Network) (wallet : ω) (log : List Event)
    (chain : ν) :
    let requests := itinerary network (Wallet.address wallet)
    let swept : Desk (WatchedChain ν) (WatchedWallet ω) :=
      ((sweep network).run { chain := { inner := chain }, wallet := { inner := wallet }, log }).2
    swept.chain.inner = Desk.poll requests chain ∧
      swept.chain.queries.map Asked.sent = requests.map Request.sent ∧
      swept.chain.broadcasts = [] ∧ swept.wallet = { inner := wallet } := by
  intro requests swept
  obtain ⟨told, reached⟩ := inquires_sweep (ν := WatchedChain ν) (ω := WatchedWallet ω) network
    { inner := chain } log
  obtain ⟨inner, queries, broadcasts⟩ := Desk.poll_watched requests { inner := chain }
  refine ⟨?_, ?_, ?_, congrArg (fun desk => desk.wallet) reached⟩
  · exact (congrArg (fun desk => desk.chain.inner) reached).trans inner
  · exact (congrArg (fun desk => desk.chain.queries.map Asked.sent) reached).trans queries
  · exact (congrArg (fun desk => desk.chain.broadcasts) reached).trans broadcasts

/-- Two sweeps of a network ask the same questions in the same order, whatever the two chains
answer, and do nothing besides. -/
theorem sweep_keeps_to_its_itinerary {ν' : Type} [ChainAccess ν'] [Wallet ω]
    (network : Registry.Network) (wallet : ω) (log : List Event) (chain : ν) (other : ν') :
    let requests := itinerary network (Wallet.address wallet)
    let swept : Desk (WatchedChain ν) (WatchedWallet ω) :=
      ((sweep network).run { chain := { inner := chain }, wallet := { inner := wallet }, log }).2
    let swept' : Desk (WatchedChain ν') (WatchedWallet ω) :=
      ((sweep network).run { chain := { inner := other }, wallet := { inner := wallet }, log }).2
    swept.chain.queries.map Asked.sent = requests.map Request.sent ∧
    swept'.chain.queries.map Asked.sent = swept.chain.queries.map Asked.sent ∧
    requests.length = 1 + 6 * network.pools.length + network.testTokens.length ∧
    (network.pools.map Prod.fst).Pairwise (· < ·) ∧
    swept.chain.broadcasts = [] ∧ swept.wallet = { inner := wallet } ∧
    ((sweep network).run { chain, wallet, log }).2.chain = swept.chain.inner := by
  intro requests swept swept'
  obtain ⟨inner, queries, broadcasts, kept⟩ := sweep_watched network wallet log chain
  obtain ⟨_, queries', _, _⟩ := sweep_watched network wallet log other
  obtain ⟨told, reached⟩ := inquires_sweep (ν := ν) (ω := ω) network chain log
  refine ⟨queries, queries'.trans queries.symm, length_itinerary network _, network.sorted,
    broadcasts, kept, ?_⟩
  exact (congrArg (fun desk => desk.chain) reached).trans inner.symm

end Probe

end SwapDesk
