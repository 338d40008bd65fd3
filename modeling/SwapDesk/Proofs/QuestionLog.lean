import SwapDesk.Proofs.Turns

/-! Questions over whole sessions. A question goes out once, as it was put; its own answer decides
what comes of it, and one event tells of it. Nothing else sends a question. -/

namespace SwapDesk

def Asked.sent (asked : Asked) : String × Bytes := (asked.contract, asked.query)

/-- What a question comes to, given the answer to it. -/
inductive Reading {α : Type} [Wire α] : Except QueryFailure Bytes → QueryResult α → Prop where
  | understood {bytes : Bytes} {value : α} (decoded : Wire.decode bytes = .ok value) :
      Reading (.ok bytes) (.response value)
  | garbled {bytes : Bytes} {fault : Wire.Fault}
      (refused : Wire.decode (α := α) bytes = .error fault) :
      Reading (.ok bytes) (.absent ⟨.decode, fault.message⟩)
  | failed {failure : QueryFailure} : Reading (.error failure) (.absent failure)

theorem reading_read {α : Type} [Wire α] (answer : Except QueryFailure Bytes) :
    Reading answer (QueryResult.read (α := α) answer) := by
  cases answer with
  | error failure => exact .failed
  | ok bytes =>
    change Reading _ (QueryResult.ofExcept ((Wire.decode bytes).mapError QueryFailure.ofFault))
    cases decoded : Wire.decode (α := α) bytes with
    | error fault => exact .garbled decoded
    | ok value => exact .understood decoded

namespace Desk

variable {ν ω : Type}

/-- An event on a question: who was asked for what, and why there is no response if there is
none. -/
structure Tells (event : Event) (question : Request) (failure : Option QueryFailure) : Prop where
  target : event.target = "query"
  level : event.level = if failure.isSome then .warn else .debug
  fields : event.fields =
    [("contract", .text question.contract), ("operation", .text question.operation)] ++
      match failure with
      | some failure => [("kind", .shown failure.kind.name), ("reason", .text failure.reason)]
      | none => []

theorem outcome_tells {α : Type} (question : Request) (result : QueryResult α) :
    Tells (outcome question.contract question.operation result) question result.failure? := by
  cases result with
  | response value => exact ⟨rfl, rfl, rfl⟩
  | absent failure => exact ⟨rfl, rfl, rfl⟩

/-- The result of an errand is what its answer reads as, with that failure if there is one. -/
def Errand.Finds {α : Type} : Errand α → Except QueryFailure Bytes → α → Option QueryFailure → Prop
  | @askVault _ _ _ _, answer, result, failure => Reading answer result ∧ failure = result.failure?
  | @askPool _ _ _ _, answer, result, failure => Reading answer result ∧ failure = result.failure?
  | .balance _ _, answer, result, failure => Reading answer result ∧ failure = result.failure?
  | _, _, _, _ => False

section
variable [ChainAccess ν]

/-- What asking does to a desk. -/
theorem ask_run {μ β : Type} [Wire μ] [Wire β] {question : Request} {message : μ}
    (spelled : Wire.encode message = question.payload) (desk : Desk ν ω) :
    let answered := ChainAccess.smart question.contract question.payload desk.chain
    let result := QueryResult.read (α := β) answered.1
    (ask question.contract question.operation message).run desk =
      (result,
        { desk with
          chain := answered.2
          log := desk.log ++ [outcome question.contract question.operation result] }) := by
  rw [← spelled]
  rfl

end

variable [ChainAccess ν] [Wallet ω]

/-- A turn that puts a question and does nothing besides. -/
structure Turn.Puts (turn : Turn (WatchedChain ν) ω) (question : Request)
    (answer : Except QueryFailure Bytes) (failure : Option QueryFailure) : Prop where
  answered : ChainAccess.smart question.contract question.payload turn.before.chain.inner =
    (answer, turn.after.chain.inner)
  noted : turn.after.chain.queries =
    turn.before.chain.queries ++ [⟨question.contract, question.payload, answer⟩]
  found : ∃ result, turn.outcome = .ok result ∧ turn.task.errand.Finds answer result failure
  told : ∃ event, turn.after.log = turn.before.log ++ [event] ∧ Tells event question failure
  unsent : turn.after.chain.broadcasts = turn.before.chain.broadcasts
  kept : turn.after.wallet = turn.before.wallet

private theorem puts_of_ask {μ β : Type} [Wire μ] [Wire β] {errand : Errand (QueryResult β)}
    {message : μ} {question : Request} (before : Desk (WatchedChain ν) ω)
    (asks : errand.perform (ν := WatchedChain ν) (ω := ω) =
      steadily (ask question.contract question.operation message))
    (spelled : Wire.encode message = question.payload)
    (finds : ∀ answer result, Reading answer result → errand.Finds answer result result.failure?) :
    ∃ answer failure, Turn.Puts ⟨⟨QueryResult β, errand⟩, before⟩ question answer failure := by
  have performed := congrArg (fun work => Work.result work before) asks
  simp only [Work.result_steadily, ask_run spelled] at performed
  have reached := congrArg Prod.snd performed
  exact ⟨_, _, {
    answered := Prod.ext rfl (congrArg (fun desk => desk.chain.inner) reached).symm
    noted := congrArg (fun desk => desk.chain.queries) reached
    found := ⟨_, congrArg Prod.fst performed, finds _ _ (reading_read _)⟩
    told := ⟨_, congrArg (fun desk => desk.log) reached, outcome_tells question _⟩
    unsent := congrArg (fun desk => desk.chain.broadcasts) reached
    kept := congrArg (fun desk => desk.wallet) reached }⟩

theorem turn_puts (turn : Turn (WatchedChain ν) ω) {question : Request}
    (asks : turn.task.errand.question? = some question) :
    ∃ answer failure, turn.Puts question answer failure := by
  obtain ⟨⟨Result, errand⟩, before⟩ := turn
  cases errand with
  | askVault vault query =>
    cases asks
    have spelled := payload_of_json vault (Wire.json_vaultQuery query)
    exact puts_of_ask before rfl spelled fun _ _ reading => ⟨reading, rfl⟩
  | askPool pool query =>
    cases asks
    have spelled := payload_of_json pool (Wire.json_poolQuery query)
    exact puts_of_ask before rfl spelled fun _ _ reading => ⟨reading, rfl⟩
  | balance token account =>
    cases asks
    have spelled := payload_of_json token (Wire.json_tokenQuery (.balance account))
    exact puts_of_ask before rfl spelled fun _ _ reading => ⟨reading, rfl⟩
  | height => cases asks
  | instruct vault action => cases asks
  | exitPool vault lpToken amount hook => cases asks
  | increaseAllowance token spender amount expires => cases asks

theorem Executed.unasked {contract operation : String} {body : Tx.Body}
    {desk : Desk (WatchedChain ν) ω}
    {result : Except Overflow (Except Trail Tx.Response) × Desk (WatchedChain ν) ω}
    (executed : Executed contract operation body desk result) :
    result.2.chain.queries = desk.chain.queries := by
  cases executed with
  | unsigned signed => rfl
  | unsent signed sent | refused signed sent _ | taken signed sent _ _ | stopped signed sent _ _ =>
    obtain ⟨inner, _, rfl⟩ := broadcast_watched sent
    rfl

theorem turn_unasked (turn : Turn (WatchedChain ν) ω)
    (silent : turn.task.errand.question? = none) :
    turn.after.chain.queries = turn.before.chain.queries := by
  obtain ⟨⟨Result, errand⟩, before⟩ := turn
  cases errand with
  | askVault vault query => cases silent
  | askPool pool query => cases silent
  | balance token account => cases silent
  | height => rfl
  | instruct vault action => exact (execute_executed _ _ _ before).unasked
  | exitPool vault lpToken amount hook => exact (execute_executed _ _ _ before).unasked
  | increaseAllowance token spender amount expires =>
    exact (execute_executed _ _ _ before).unasked

/-- The question of a task as it goes out. -/
def Task.asks (task : Task) : Option (String × Bytes) := task.errand.question?.map Request.sent

theorem turn_gains_question (turn : Turn (WatchedChain ν) ω) :
    turn.after.chain.queries.map Asked.sent =
      turn.before.chain.queries.map Asked.sent ++ turn.task.asks.toList := by
  unfold Task.asks
  cases asks : turn.task.errand.question? with
  | none =>
    rw [turn_unasked turn asks]
    exact (List.append_nil _).symm
  | some question =>
    obtain ⟨answer, failure, puts⟩ := turn_puts turn asks
    rw [puts.noted, List.map_append]
    rfl

theorem performAll_questions (tasks : List Task) (desk : Desk (WatchedChain ν) ω) :
    ((performAll tasks).result desk).2.chain.queries.map Asked.sent =
      desk.chain.queries.map Asked.sent ++
        ((turns tasks desk).map Turn.task).filterMap Task.asks := by
  rw [List.filterMap_map]
  exact performAll_gains (fun desk => desk.chain.queries.map Asked.sent)
    (fun turn => turn.task.asks) turn_gains_question tasks desk

/-- Questions never stop a session. -/
theorem performAll_ends {tasks : List Task} (desk : Desk (WatchedChain ν) ω)
    (asking : ∀ task ∈ tasks, ∃ question, task.errand.question? = some question) :
    ((performAll tasks).result desk).1 = .ok () := by
  induction tasks generalizing desk with
  | nil => rfl
  | cons task tasks ih =>
    obtain ⟨question, asks⟩ := asking task List.mem_cons_self
    obtain ⟨_, _, puts⟩ := turn_puts ⟨task, desk⟩ asks
    obtain ⟨result, ended, _⟩ := puts.found
    rw [(performAll_cons_ok tasks ended).1]
    exact ih _ fun later member => asking later (List.mem_cons_of_mem _ member)

/-- Every question of a session goes out once and in order, whatever came before it, and its
result rests on the answer to it alone. -/
theorem every_question_is_put_once (chain : ν) (wallet : ω) (log : List Event) (tasks : List Task) :
    let opening : Desk (WatchedChain ν) (WatchedWallet ω) :=
      { chain := { inner := chain }, wallet := { inner := wallet }, log }
    let session := (performAll tasks).result opening
    let taken := turns tasks opening
    (taken.map Turn.task <+: tasks ∧ (session.1 = .ok () → taken.map Turn.task = tasks)) ∧
    session.2.chain.queries.map Asked.sent = (taken.map Turn.task).filterMap Task.asks ∧
    (∀ turn ∈ taken, ∀ question, turn.task.errand.question? = some question →
      ∃ answer failure, turn.Puts question answer failure) ∧
    (∀ turn ∈ taken, turn.task.errand.question? = none →
      turn.after.chain.queries = turn.before.chain.queries) ∧
    (∀ task question, task.errand.question? = some question → ∀ count,
      let again := (performAll (List.replicate count task)).result session.2
      again.1 = .ok () ∧ again.2.chain.queries.map Asked.sent =
        session.2.chain.queries.map Asked.sent ++ List.replicate count question.sent) ∧
    (performAll tasks).result { chain, wallet, log } = (session.1, session.2.bare) := by
  intro opening session taken
  refine ⟨turns_in_order tasks opening, performAll_questions tasks opening,
    fun turn _ question => turn_puts turn, fun turn _ => turn_unasked turn, ?_,
    performAll_bare tasks opening⟩
  intro task question asks count again
  have ended : again.1 = .ok () := by
    refine performAll_ends session.2 ?_
    intro later member
    rw [List.eq_of_mem_replicate member]
    exact ⟨question, asks⟩
  refine ⟨ended, ?_⟩
  have gained := performAll_questions (List.replicate count task) session.2
  rw [(turns_in_order _ session.2).2 ended] at gained
  have sent : task.asks = some question.sent := congrArg (Option.map Request.sent) asks
  rw [List.filterMap_replicate_of_some sent] at gained
  exact gained

end Desk

end SwapDesk
