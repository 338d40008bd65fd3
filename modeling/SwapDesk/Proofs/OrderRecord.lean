import SwapDesk.Proofs.QuestionLog
import SwapDesk.Proofs.SequenceNumbers

/-! Orders over whole sessions. An order has one body signed; what was signed is sent once, and the
wallet commits if the node took it in. Nothing else signs, sends or commits. -/

namespace SwapDesk

def Signing.drafted (signing : Signing) : Tx.Body × Tx.Fee := (signing.body, signing.fee)

def Signing.tx? (signing : Signing) : Option Tx.Signed := signing.outcome.toOption

theorem Tx.Response.isAccepted_iff (response : Tx.Response) :
    response.isAccepted = true ↔ response.code = 0 := beq_iff_eq

theorem Tx.Response.isAccepted_eq_false_iff (response : Tx.Response) :
    response.isAccepted = false ↔ response.code ≠ 0 := beq_eq_false_iff_ne

namespace Desk

variable {ν ω α : Type}

abbrev WatchedDesk (ν ω : Type) := Desk (WatchedChain ν) (WatchedWallet ω)

/-- The body of an order: one execution without funds, no memo and no last height. -/
def Request.body (order : Request) (sender : String) : Tx.Body :=
  { messages := [{ sender, contract := order.contract, message := order.payload, funds := [] }]
    memo := ""
    timeoutHeight := 0 }

/-- What is on record after a turn that was not on record before it. -/
structure Gains (before after : WatchedDesk ν ω) (signings : List Signing)
    (broadcasts : List Broadcast) (commits : Nat) : Prop where
  signed : after.wallet.signings = before.wallet.signings ++ signings
  sent : after.chain.broadcasts = before.chain.broadcasts ++ broadcasts
  committed : after.wallet.commits = before.wallet.commits + commits
  unasked : after.chain.queries = before.chain.queries

/-- How an order ends, with what is then on record and what comes back. -/
inductive Carried [Wallet ω] (body : Tx.Body) (before : WatchedDesk ν ω) :
    Except Overflow (Except Trail Tx.Response) → WatchedDesk ν ω → Prop where
  | unsigned {trail : Trail} {after : WatchedDesk ν ω}
      (gains : Gains before after [⟨body, executionFee, .error trail⟩] [] 0) :
      Carried body before (.ok (.error ⟨"Failed to sign transaction!", trail.lines⟩)) after
  | unsent {tx : Tx.Signed} {trail : Trail} {after : WatchedDesk ν ω}
      (gains : Gains before after [⟨body, executionFee, .ok tx⟩] [⟨tx, .error trail⟩] 0) :
      Carried body before (.ok (.error trail)) after
  | refused {tx : Tx.Signed} {response : Tx.Response} {after : WatchedDesk ν ω}
      (gains : Gains before after [⟨body, executionFee, .ok tx⟩] [⟨tx, .ok response⟩] 0)
      (refused : response.code ≠ 0) : Carried body before (.ok (.ok response)) after
  | taken {tx : Tx.Signed} {response : Tx.Response} {after : WatchedDesk ν ω}
      (gains : Gains before after [⟨body, executionFee, .ok tx⟩] [⟨tx, .ok response⟩] 1)
      (accepted : response.code = 0) : Carried body before (.ok (.ok response)) after
  /-- The wallet was told to commit and stopped the program. -/
  | stopped {tx : Tx.Signed} {response : Tx.Response} {overflow : Overflow}
      {after : WatchedDesk ν ω}
      (gains : Gains before after [⟨body, executionFee, .ok tx⟩] [⟨tx, .ok response⟩] 0)
      (accepted : response.code = 0)
      (full : Wallet.commit after.wallet.inner = .error overflow) :
      Carried body before (.error overflow) after

theorem Carried.drafted [Wallet ω] {body : Tx.Body} {before after : WatchedDesk ν ω}
    {outcome : Except Overflow (Except Trail Tx.Response)}
    (carried : Carried body before outcome after) :
    after.wallet.signings.map Signing.drafted =
      before.wallet.signings.map Signing.drafted ++ [(body, executionFee)] := by
  cases carried with
  | unsigned gains | unsent gains | refused gains _ | taken gains _ | stopped gains _ _ =>
    rw [gains.signed, List.map_append]
    rfl

/-- All that was signed has been sent, and the wallet has committed what the node took in, short
of the last commit if that one stopped the program. -/
structure Balanced (ended : Bool) (desk : WatchedDesk ν ω) : Prop where
  sent : desk.chain.broadcasts.map Broadcast.tx = desk.wallet.signings.filterMap Signing.tx?
  committed : acceptances desk.chain.broadcasts = desk.wallet.commits + if ended then 0 else 1

theorem Gains.balanced {before after : WatchedDesk ν ω} {signings : List Signing}
    {broadcasts : List Broadcast} {commits : Nat} {ended : Bool}
    (gains : Gains before after signings broadcasts commits) (balanced : Balanced true before)
    (sent : broadcasts.map Broadcast.tx = signings.filterMap Signing.tx?)
    (committed : acceptances broadcasts = commits + if ended then 0 else 1) :
    Balanced ended after where
  sent := by
    rw [gains.sent, gains.signed, List.map_append, List.filterMap_append, balanced.sent, sent]
  committed := by
    have earlier : before.chain.broadcasts.countP _ = before.wallet.commits := balanced.committed
    rw [acceptances] at committed
    rw [acceptances, gains.sent, gains.committed, List.countP_append, earlier, committed,
      Nat.add_assoc]

theorem acceptances_ok (tx : Tx.Signed) (response : Tx.Response) :
    acceptances [⟨tx, .ok response⟩] = if response.code = 0 then 1 else 0 := by
  rw [acceptances, List.countP_singleton]
  change (if response.isAccepted = true then 1 else 0) = _
  simp only [Tx.Response.isAccepted_iff]

theorem Carried.balanced [Wallet ω] {body : Tx.Body} {before after : WatchedDesk ν ω}
    {outcome : Except Overflow (Except Trail Tx.Response)}
    (carried : Carried body before outcome after) (balanced : Balanced true before) :
    Balanced outcome.isOk after := by
  cases carried with
  | unsigned gains => exact gains.balanced balanced rfl rfl
  | unsent gains => exact gains.balanced balanced rfl rfl
  | refused gains refused =>
    exact gains.balanced balanced rfl ((acceptances_ok _ _).trans (if_neg refused))
  | taken gains accepted | stopped gains accepted _ =>
    exact gains.balanced balanced rfl ((acceptances_ok _ _).trans (if_pos accepted))

theorem gains_signed [Wallet ω] {before : WatchedDesk ν ω} {wallet : WatchedWallet ω}
    {body : Tx.Body} {outcome : Except Trail Tx.Signed}
    (signed : Wallet.sign body executionFee before.wallet = (outcome, wallet)) :
    wallet.signings = before.wallet.signings ++ [⟨body, executionFee, outcome⟩] ∧
      wallet.commits = before.wallet.commits := by
  obtain ⟨inner, _, rfl⟩ := sign_watched signed
  exact ⟨rfl, rfl⟩

theorem gains_sent [ChainAccess ν] {before : WatchedDesk ν ω} {chain : WatchedChain ν}
    {tx : Tx.Signed} {outcome : Except Trail Tx.Response}
    (sent : ChainAccess.broadcast tx before.chain = (outcome, chain)) :
    chain.broadcasts = before.chain.broadcasts ++ [⟨tx, outcome⟩] ∧
      chain.queries = before.chain.queries := by
  obtain ⟨inner, _, rfl⟩ := broadcast_watched sent
  exact ⟨rfl, rfl⟩

variable [ChainAccess ν] [Wallet ω]

theorem Executed.carried {contract operation : String} {body : Tx.Body}
    {before : WatchedDesk ν ω}
    {result : Except Overflow (Except Trail Tx.Response) × WatchedDesk ν ω}
    (executed : Executed contract operation body before result) :
    Carried body before result.1 result.2 := by
  cases executed with
  | unsigned signed =>
    obtain ⟨signings, commits⟩ := gains_signed signed
    exact .unsigned ⟨signings, (List.append_nil _).symm, commits, rfl⟩
  | unsent signed sent =>
    obtain ⟨signings, commits⟩ := gains_signed signed
    obtain ⟨broadcasts, queries⟩ := gains_sent sent
    exact .unsent ⟨signings, broadcasts, commits, queries⟩
  | refused signed sent refused =>
    obtain ⟨signings, commits⟩ := gains_signed signed
    obtain ⟨broadcasts, queries⟩ := gains_sent sent
    exact .refused ⟨signings, broadcasts, commits, queries⟩
      ((Tx.Response.isAccepted_eq_false_iff _).mp refused)
  | taken signed sent accepted committed =>
    obtain ⟨signings, commits⟩ := gains_signed signed
    obtain ⟨broadcasts, queries⟩ := gains_sent sent
    obtain ⟨inner, _, rfl⟩ := commit_watched committed
    exact .taken ⟨signings, broadcasts, congrArg (· + 1) commits, queries⟩
      ((Tx.Response.isAccepted_iff _).mp accepted)
  | stopped signed sent accepted committed =>
    obtain ⟨signings, commits⟩ := gains_signed signed
    obtain ⟨broadcasts, queries⟩ := gains_sent sent
    exact .stopped ⟨signings, broadcasts, commits, queries⟩
      ((Tx.Response.isAccepted_iff _).mp accepted) (commit_watched_stopped committed)

/-- How an execution ended, read off the result of its errand. -/
def Errand.execution? {α : Type} :
    Errand α → Except Overflow α → Option (Except Overflow (Except Trail Tx.Response))
  | .instruct _ _, outcome => some outcome
  | .exitPool _ _ _ _, outcome => some outcome
  | .increaseAllowance _ _ _ _, outcome => some outcome
  | _, _ => none

theorem carried_of_execute {μ : Type} [Wire μ] {order : Request} {message : μ} (operation : String)
    (spelled : Wire.encode message = order.payload) (before : WatchedDesk ν ω) :
    Carried (order.body (Wallet.address before.wallet)) before
      ((execute order.contract operation message).result before).1
      ((execute order.contract operation message).result before).2 := by
  have executed := execute_executed order.contract operation message before
  rw [bodyFor, spelled] at executed
  exact executed.carried

theorem turn_carries (turn : Turn (WatchedChain ν) (WatchedWallet ω)) {order : Request}
    (orders : turn.task.errand.order? = some order) :
    ∃ outcome, turn.task.errand.execution? turn.outcome = some outcome ∧
      Carried (order.body (Wallet.address turn.before.wallet)) turn.before outcome turn.after := by
  obtain ⟨⟨Result, errand⟩, before⟩ := turn
  cases errand with
  | instruct vault action =>
    cases orders
    have spelled := payload_of_json vault (Wire.json_vaultAction action)
    exact ⟨_, rfl, carried_of_execute action.name spelled before⟩
  | exitPool vault lpToken amount hook =>
    cases orders
    have spelled := payload_of_json lpToken (Wire.json_tokenAction (hook.intoSend vault amount))
    exact ⟨_, rfl, carried_of_execute hook.name spelled before⟩
  | increaseAllowance token spender amount expires =>
    cases orders
    have spelled :=
      payload_of_json token (Wire.json_tokenAction (.increaseAllowance spender amount expires))
    exact ⟨_, rfl, carried_of_execute "increase_allowance" spelled before⟩
  | height => cases orders
  | askVault vault query => cases orders
  | askPool pool query => cases orders
  | balance token account => cases orders

theorem turn_idle (turn : Turn (WatchedChain ν) ω) (idle : turn.task.errand.order? = none) :
    turn.outcome.isOk = true ∧ turn.after.wallet = turn.before.wallet ∧
      turn.after.chain.broadcasts = turn.before.chain.broadcasts := by
  cases asks : turn.task.errand.question? with
  | some question =>
    obtain ⟨_, _, puts⟩ := turn_puts turn asks
    obtain ⟨result, ended, _⟩ := puts.found
    exact ⟨by rw [ended]; rfl, puts.kept, puts.unsent⟩
  | none =>
    obtain ⟨⟨Result, errand⟩, before⟩ := turn
    cases errand with
    | height => exact ⟨rfl, rfl, rfl⟩
    | askVault vault query => cases asks
    | askPool pool query => cases asks
    | balance token account => cases asks
    | instruct vault action => cases idle
    | exitPool vault lpToken amount hook => cases idle
    | increaseAllowance token spender amount expires => cases idle

/-- What a turn has the wallet sign, if it has it sign anything. -/
def Turn.draft? (turn : Turn ν (WatchedWallet ω)) : Option (Tx.Body × Tx.Fee) :=
  turn.task.errand.order?.map fun order =>
    (order.body (Wallet.address turn.before.wallet), executionFee)

theorem turn_gains_draft (turn : Turn (WatchedChain ν) (WatchedWallet ω)) :
    turn.after.wallet.signings.map Signing.drafted =
      turn.before.wallet.signings.map Signing.drafted ++ turn.draft?.toList := by
  unfold Turn.draft?
  cases orders : turn.task.errand.order? with
  | none =>
    rw [(turn_idle turn orders).2.1]
    exact (List.append_nil _).symm
  | some order =>
    obtain ⟨outcome, _, carried⟩ := turn_carries turn orders
    exact carried.drafted

theorem Errand.isOk_execution? {α : Type} {errand : Errand α} {outcome : Except Overflow α}
    {executed : Except Overflow (Except Trail Tx.Response)}
    (same : errand.execution? outcome = some executed) : outcome.isOk = executed.isOk := by
  cases errand with
  | instruct vault action | exitPool vault lpToken amount hook
  | increaseAllowance token spender amount expires =>
    cases same
    rfl
  | height | askVault vault query | askPool pool query | balance token account => cases same

theorem turn_keeps_balance (turn : Turn (WatchedChain ν) (WatchedWallet ω))
    (balanced : Balanced true turn.before) : Balanced turn.outcome.isOk turn.after := by
  cases orders : turn.task.errand.order? with
  | none =>
    obtain ⟨ended, kept, unsent⟩ := turn_idle turn orders
    rw [ended]
    refine ⟨?_, ?_⟩
    · rw [kept, unsent]
      exact balanced.sent
    · rw [kept, unsent]
      exact balanced.committed
  | some order =>
    obtain ⟨outcome, same, carried⟩ := turn_carries turn orders
    rw [Errand.isOk_execution? same]
    exact carried.balanced balanced

/-- Every order of a session is signed once, and sent and committed as far as it got; what comes
back is the node's own response or the error that ended it. -/
theorem every_order_leaves_its_record (chain : ν) (wallet : ω) (log : List Event)
    (tasks : List Task) :
    let opening : WatchedDesk ν ω :=
      { chain := { inner := chain }, wallet := { inner := wallet }, log }
    let session := (performAll tasks).result opening
    let taken := turns tasks opening
    (taken.map Turn.task <+: tasks ∧ (session.1 = .ok () → taken.map Turn.task = tasks)) ∧
    session.2.wallet.signings.map Signing.drafted = taken.filterMap Turn.draft? ∧
    session.2.chain.broadcasts.map Broadcast.tx =
      session.2.wallet.signings.filterMap Signing.tx? ∧
    acceptances session.2.chain.broadcasts =
      session.2.wallet.commits + (if session.1.isOk then 0 else 1) ∧
    (∀ turn ∈ taken, ∀ order, turn.task.errand.order? = some order →
      ∃ outcome, turn.task.errand.execution? turn.outcome = some outcome ∧
        Carried (order.body (Wallet.address turn.before.wallet)) turn.before outcome turn.after) ∧
    (∀ turn ∈ taken, turn.task.errand.order? = none → turn.outcome.isOk = true ∧
      turn.after.wallet = turn.before.wallet ∧
      turn.after.chain.broadcasts = turn.before.chain.broadcasts) ∧
    (performAll tasks).result { chain, wallet, log } = (session.1, session.2.bare) := by
  intro opening session taken
  have balanced : Balanced session.1.isOk session.2 :=
    performAll_keeps Balanced turn_keeps_balance tasks ⟨rfl, rfl⟩
  exact ⟨turns_in_order tasks opening,
    performAll_gains (fun desk => desk.wallet.signings.map Signing.drafted) Turn.draft?
      turn_gains_draft tasks opening,
    balanced.sent, balanced.committed, fun turn _ order => turn_carries turn,
    fun turn _ => turn_idle turn, performAll_bare tasks opening⟩

end Desk

end SwapDesk
