import SwapDesk.Probe.Sweep
import SwapDesk.Proofs.QuestionLog

/-! What the log says of a sweep. Each answer has a word of the probe, in the order in which the
questions were put, with one exception: if a pool does not say its number, the probe passes over
it. -/

namespace SwapDesk

namespace Desk

variable {ν : Type} [ChainAccess ν]

/-- A chain after requests that were sent one after the other, whatever it answered. -/
def poll (requests : List Request) (chain : ν) : ν :=
  requests.foldl (fun chain request =>
    (ChainAccess.smart request.contract request.payload chain).2) chain

theorem poll_append (requests later : List Request) (chain : ν) :
    poll (requests ++ later) chain = poll later (poll requests chain) := List.foldl_append

/-- What a chain answers to requests that are sent one after the other. -/
def answers : List Request → ν → List (Except QueryFailure Bytes)
  | [], _ => []
  | request :: requests, chain =>
    let (answer, chain) := ChainAccess.smart request.contract request.payload chain
    answer :: answers requests chain

theorem answers_append (requests later : List Request) (chain : ν) :
    answers (requests ++ later) chain =
      answers requests chain ++ answers later (poll requests chain) := by
  induction requests generalizing chain with
  | nil => rfl
  | cons request requests ih => exact congrArg (_ :: ·) (ih _)

end Desk

namespace Probe

open Desk (Request poll answers)

/-- A question of the sweep and what its answer is read for: a reply, or the number that a pool
gives itself. -/
inductive Stop : Type 1 where
  | reply (Reply : Type) [Wire Reply] (subject : String) (request : Request)
  | number (pool : String) (configured : UInt64) (request : Request)

def Stop.request : Stop → Request
  | @reply _ _ _ request => request
  | .number _ _ request => request

/-- The questions about one pool. -/
def poolStops (vault name : String) (pool : Registry.Descriptor) : List Stop :=
  [.reply Pool.Config name ⟨pool.address, "config", []⟩,
    .reply Pool.Fees name ⟨pool.address, "fee_params", []⟩,
    .number name pool.id ⟨pool.address, "pool_id", []⟩,
    .reply Pool.CumulativePrices name ⟨pool.address, "cumulative_prices", []⟩,
    .reply Vault.PoolInfo name ⟨vault, "get_pool_by_id", [("pool_id", .text pool.id.toNat.repr)]⟩,
    .reply Vault.PoolInfo name ⟨vault, "get_pool_by_address", [("pool_addr", .text pool.address)]⟩]

def stops (network : Registry.Network) (account : String) : List Stop :=
  .reply Vault.Config "vault" ⟨network.vault, "config", []⟩ ::
    (network.pools.flatMap fun (name, pool) => poolStops network.vault name pool) ++
    network.testTokens.map fun token =>
      .reply Token.Balance token ⟨token, "balance", [("address", .text account)]⟩

/-- An event of the probe with the given level, message and fields. -/
structure Speaks (event : Event) (level : Event.Level) (message : String)
    (fields : List (String × Event.Value)) : Prop where
  target : event.target = "probe"
  level : event.level = level
  message : event.message = message
  fields : event.fields = fields

/-- The events of the probe that tell what came of a question. -/
def findings (log : List Event) : List Event :=
  log.filter fun event => event.target = "probe" && event.message ≠ "Probing pool."

/-- What is found at a stop, given the answer. -/
inductive Finding : Stop → Except QueryFailure Bytes → List Event → Prop where
  | answered {Reply : Type} [Wire Reply] {subject : String} {request : Request}
      {answer : Except QueryFailure Bytes} {value : Reply} {event : Event}
      (read : Reading answer (.response value))
      (spoken : Speaks event .info "Query answered."
        [("subject", .text subject), ("operation", .text request.operation),
          ("response", .shown (Wire.describe value))]) :
      Finding (.reply Reply subject request) answer [event]
  | unanswered {Reply : Type} [Wire Reply] {subject : String} {request : Request}
      {answer : Except QueryFailure Bytes} {failure : QueryFailure} {event : Event}
      (read : Reading (α := Reply) answer (.absent failure))
      (spoken : Speaks event .warn "No result."
        [("subject", .text subject), ("operation", .text request.operation),
          ("kind", .shown failure.kind.name), ("reason", .text failure.reason)]) :
      Finding (.reply Reply subject request) answer [event]
  | matching {pool : String} {configured : UInt64} {request : Request}
      {answer : Except QueryFailure Bytes} {id : Amount} {event : Event}
      (read : Reading answer (.response id)) (equal : id.value = configured.toNat)
      (spoken : Speaks event .info "Pool ID matches configuration."
        [("pool", .text pool), ("id", .shown id.value.repr)]) :
      Finding (.number pool configured request) answer [event]
  | differing {pool : String} {configured : UInt64} {request : Request}
      {answer : Except QueryFailure Bytes} {id : Amount} {event : Event}
      (read : Reading answer (.response id)) (unequal : id.value ≠ configured.toNat)
      (spoken : Speaks event .warn "Pool reports a different ID than configured!"
        [("pool", .text pool), ("reported", .shown id.value.repr),
          ("configured", .number configured.toNat)]) :
      Finding (.number pool configured request) answer [event]
  | unsaid {pool : String} {configured : UInt64} {request : Request}
      {answer : Except QueryFailure Bytes} {failure : QueryFailure}
      (read : Reading (α := Amount) answer (.absent failure)) :
      Finding (.number pool configured request) answer []

/-- What is found at stops that follow each other. -/
inductive Findings : List Stop → List (Except QueryFailure Bytes) → List Event → Prop where
  | none : Findings [] [] []
  | next {stop : Stop} {stops : List Stop} {answer : Except QueryFailure Bytes}
      {answers : List (Except QueryFailure Bytes)} {events later : List Event}
      (finding : Finding stop answer events) (rest : Findings stops answers later) :
      Findings (stop :: stops) (answer :: answers) (events ++ later)

theorem Findings.append {stops later : List Stop}
    {answers answers' : List (Except QueryFailure Bytes)} {events events' : List Event}
    (first : Findings stops answers events) (second : Findings later answers' events') :
    Findings (stops ++ later) (answers ++ answers') (events ++ events') := by
  induction first with
  | none => exact second
  | next finding _ ih =>
    rw [List.append_assoc]
    exact .next finding ih

theorem Finding.single {stop : Stop} {answer : Except QueryFailure Bytes} {events : List Event}
    (finding : Finding stop answer events) : Findings [stop] [answer] events := by
  have followed := Findings.next finding .none
  rwa [List.append_nil] at followed

theorem findings_append (log later : List Event) :
    findings (log ++ later) = findings log ++ findings later := List.filter_append ..

section
variable {answer : Except QueryFailure Bytes}

/-- The desk's own word on a question is none of the probe's. -/
theorem findings_outcome {α : Type} (contract operation : String) (result : QueryResult α)
    (log : List Event) :
    findings (Desk.outcome contract operation result :: log) = findings log := by
  cases result with
  | response value => rfl
  | absent failure => rfl

theorem finding_report {α : Type} [Wire α] {result : QueryResult α} (subject : String)
    (request : Request) (reading : Reading answer result) :
    Finding (.reply α subject request) answer
      (findings [report subject request.operation result]) := by
  cases result with
  | response value => exact .answered reading ⟨rfl, rfl, rfl, rfl⟩
  | absent failure => exact .unanswered reading ⟨rfl, rfl, rfl, rfl⟩

theorem finding_compare {result : QueryResult Amount} (name : String)
    (pool : Registry.Descriptor) (request : Request) (reading : Reading answer result) :
    Finding (.number name pool.id request) answer (findings (compare name pool result)) := by
  cases result with
  | absent failure => exact .unsaid reading
  | response id =>
    by_cases equal : id.value = pool.id.toNat
    · have told : compare name pool (.response id) = [.idMatches name id] := if_pos equal
      rw [told]
      exact .matching reading equal ⟨rfl, rfl, rfl, rfl⟩
    · have told : compare name pool (.response id) = [.idDiffers name id pool.id] := if_neg equal
      rw [told]
      exact .differing reading equal ⟨rfl, rfl, rfl, rfl⟩

end

section
variable {ν ω α β : Type} [ChainAccess ν] {wallet : ω}

/-- An action that puts the questions of some stops and logs what it finds there. -/
def Recounts (wallet : ω) (action : StateM (Desk ν ω) α) (stops : List Stop) : Prop :=
  ∀ chain log, ∃ told, (action.run { chain, wallet, log }).2 =
      { chain := poll (stops.map Stop.request) chain, wallet, log := log ++ told } ∧
    Findings stops (answers (stops.map Stop.request) chain) (findings told)

/-- What is logged besides is no finding. -/
theorem recounts_emit {events : List Event} (silent : findings events = []) :
    Recounts (ν := ν) wallet (Desk.emit events) [] := by
  intro chain log
  refine ⟨events, rfl, ?_⟩
  rw [silent]
  exact .none

theorem recounts_pure (value : α) : Recounts (ν := ν) wallet (pure value) [] := by
  intro chain log
  refine ⟨[], ?_, .none⟩
  rw [List.append_nil]
  rfl

theorem Recounts.bind {action : StateM (Desk ν ω) α} {next : α → StateM (Desk ν ω) β}
    {stops later : List Stop} (first : Recounts wallet action stops)
    (second : ∀ value, Recounts wallet (next value) later) :
    Recounts wallet (action >>= next) (stops ++ later) := by
  intro chain log
  obtain ⟨told, reached, found⟩ := first chain log
  obtain ⟨told', ended, found'⟩ := second (action.run { chain, wallet, log }).1
    (poll (stops.map Stop.request) chain) (log ++ told)
  refine ⟨told ++ told', ?_, ?_⟩
  · rw [StateT.run_bind]
    change ((next _).run (action.run { chain, wallet, log }).2).2 = _
    rw [reached, ended, List.map_append, Desk.poll_append, List.append_assoc]
  · rw [List.map_append, Desk.answers_append, findings_append]
    exact found.append found'

theorem Recounts.looking {next : Desk ν ω → StateM (Desk ν ω) α} {stops : List Stop}
    (settled : ∀ desk : Desk ν ω, desk.wallet = wallet → Recounts wallet (next desk) stops) :
    Recounts wallet (get >>= next) stops :=
  fun chain log => settled { chain, wallet, log } rfl chain log

theorem recounts_forM {visit : β → StateM (Desk ν ω) Unit} {visits : β → List Stop}
    (each : ∀ item, Recounts wallet (visit item) (visits item)) (items : List β) :
    Recounts wallet (items.forM visit) (items.flatMap visits) := by
  induction items with
  | nil => exact recounts_pure ()
  | cons item items ih => exact (each item).bind fun _ => ih

/-- A question whose result is told. -/
theorem recounts_ask {μ : Type} [Wire μ] [Wire α] {stop : Stop} {message : μ}
    (spelled : Wire.encode message = stop.request.payload) {events : QueryResult α → List Event}
    (finding : ∀ answer result, Reading answer result →
      Finding stop answer (findings (events result))) :
    Recounts (ν := ν) wallet
      (Desk.ask (α := α) stop.request.contract stop.request.operation message >>= fun result =>
        Desk.emit (events result)) [stop] := by
  intro chain log
  have asked := Desk.ask_run (β := α) spelled { chain, wallet, log }
  let answered := ChainAccess.smart stop.request.contract stop.request.payload chain
  let result := QueryResult.read (α := α) answered.1
  let event := Desk.outcome stop.request.contract stop.request.operation result
  -- The desk has its own word on the outcome before the probe comes to it.
  refine ⟨event :: events result, ?_, ?_⟩
  · rw [StateT.run_bind, asked]
    change Desk.mk _ _ (log ++ [event] ++ events result) = _
    rw [List.append_assoc]
    rfl
  · rw [findings_outcome]
    exact (finding _ _ (reading_read answered.1)).single

theorem recounts_reply {μ : Type} [Wire μ] [Wire α] (subject : String) (request : Request)
    {message : μ} (spelled : Wire.encode message = request.payload) :
    Recounts (ν := ν) wallet
      (Desk.ask (α := α) request.contract request.operation message >>= fun result =>
        Desk.emit [report subject request.operation result]) [.reply α subject request] := by
  have asked : Wire.encode message = (Stop.reply α subject request).request.payload := spelled
  exact recounts_ask asked fun _ _ reading => finding_report subject request reading

/-- One stop after the other. -/
theorem Recounts.then {question : StateM (Desk ν ω) α} {events : α → List Event}
    {next : StateM (Desk ν ω) β} {stop : Stop} {later : List Stop}
    (first : Recounts wallet (question >>= fun result => Desk.emit (events result)) [stop])
    (rest : Recounts wallet next later) :
    Recounts wallet (question >>= fun result => Desk.emit (events result) >>= fun _ => next)
      (stop :: later) := by
  have both := first.bind fun _ => rest
  rwa [bind_assoc] at both

theorem recounts_askVault [Wire α] (subject vault : String) (query : Vault.Query) :
    Recounts (ν := ν) wallet (Desk.askVault (α := α) vault query >>= fun result =>
      Desk.emit [report subject query.name result])
      [.reply α subject ⟨vault, query.name, query.fields⟩] :=
  have spelled := Desk.payload_of_json vault (Wire.json_vaultQuery query)
  recounts_reply subject ⟨vault, query.name, query.fields⟩ spelled

theorem recounts_askPool [Wire α] (subject pool : String) (query : Pool.Query) :
    Recounts (ν := ν) wallet (Desk.askPool (α := α) pool query >>= fun result =>
      Desk.emit [report subject query.name result])
      [.reply α subject ⟨pool, query.name, query.fields⟩] :=
  have spelled := Desk.payload_of_json pool (Wire.json_poolQuery query)
  recounts_reply subject ⟨pool, query.name, query.fields⟩ spelled

theorem recounts_number (name : String) (pool : Registry.Descriptor) :
    Recounts (ν := ν) wallet (Desk.askPool pool.address .poolId >>= fun result =>
      Desk.emit (compare name pool result))
      [.number name pool.id ⟨pool.address, "pool_id", []⟩] := by
  have spelled := Desk.payload_of_json pool.address (Wire.json_poolQuery .poolId)
  have asked : Wire.encode Pool.Query.poolId =
    (Stop.number name pool.id ⟨pool.address, "pool_id", []⟩).request.payload := spelled
  exact recounts_ask asked fun _ _ reading => finding_compare name pool _ reading

theorem recounts_balance (token account : String) :
    Recounts (ν := ν) wallet (Desk.balance token account >>= fun result =>
      Desk.emit [report token "balance" result])
      [.reply Token.Balance token ⟨token, "balance", [("address", .text account)]⟩] :=
  have spelled := Desk.payload_of_json token (Wire.json_tokenQuery (.balance account))
  recounts_reply token ⟨token, "balance", [("address", .text account)]⟩ spelled

theorem recounts_pool (name : String) (pool : Registry.Descriptor) :
    Recounts (ν := ν) wallet (askPool name pool)
      [.reply Pool.Config name ⟨pool.address, "config", []⟩,
        .reply Pool.Fees name ⟨pool.address, "fee_params", []⟩,
        .number name pool.id ⟨pool.address, "pool_id", []⟩,
        .reply Pool.CumulativePrices name ⟨pool.address, "cumulative_prices", []⟩] := by
  refine (recounts_askPool name pool.address .config).then ?_
  refine (recounts_askPool name pool.address .feeParams).then ?_
  refine (recounts_number name pool).then ?_
  exact recounts_askPool name pool.address .cumulativePrices

theorem recounts_vaultAbout (vault name : String) (pool : Registry.Descriptor) :
    Recounts (ν := ν) wallet (askVaultAbout vault name pool)
      [.reply Vault.PoolInfo name
          ⟨vault, "get_pool_by_id", [("pool_id", .text pool.id.toNat.repr)]⟩,
        .reply Vault.PoolInfo name
          ⟨vault, "get_pool_by_address", [("pool_addr", .text pool.address)]⟩] := by
  refine (recounts_askVault name vault (.poolById (.ofUInt64 pool.id))).then ?_
  exact recounts_askVault name vault (.poolByAddress pool.address)

theorem recounts_sweepPool (vault name : String) (pool : Registry.Descriptor) :
    Recounts (ν := ν) wallet (sweepPool vault name pool) (poolStops vault name pool) :=
  (recounts_emit rfl).bind fun _ =>
    (recounts_pool name pool).bind fun _ => recounts_vaultAbout vault name pool

theorem recounts_sweep [Wallet ω] (network : Registry.Network) :
    Recounts (ν := ν) wallet (sweep network) (stops network (Wallet.address wallet)) := by
  refine (recounts_askVault "vault" network.vault .config).then ?_
  refine (recounts_forM (fun (name, pool) => recounts_sweepPool network.vault name pool)
    network.pools).bind fun _ => ?_
  refine .looking fun desk same => ?_
  rw [same, List.map_eq_flatMap]
  exact recounts_forM (recounts_balance · (Wallet.address wallet)) network.testTokens

end

end Probe

end SwapDesk
