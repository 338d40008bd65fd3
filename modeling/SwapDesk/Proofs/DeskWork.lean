import SwapDesk.Desk.Errand
import SwapDesk.Desk.Watched
import SwapDesk.Proofs.StatefulErrors

/-! What work does at a desk. Queries and questions for the height leave the wallet alone;
every execution ends in one of the five ways that `Executed` lists. -/

namespace SwapDesk.Desk

variable {ν ω α β : Type}

theorem Work.result_steadily (action : StateM (Desk ν ω) α) (desk : Desk ν ω) :
    (steadily action).result desk = (.ok (action.run desk).1, (action.run desk).2) := rfl

theorem Work.result_bind_ok {work : Work ν ω α} {next : α → Work ν ω β} {desk after : Desk ν ω}
    {value : α} (done : work.result desk = (.ok value, after)) :
    (work >>= next).result desk = (next value).result after :=
  settled_bind_ok done

theorem Work.result_bind_error {work : Work ν ω α} {next : α → Work ν ω β} {desk after : Desk ν ω}
    {overflow : Overflow} (stopped : work.result desk = (.error overflow, after)) :
    (work >>= next).result desk = (.error overflow, after) :=
  settled_bind_error stopped

section
variable [Wallet ω]

theorem commit_stopped {desk : Desk ν ω} {overflow : Overflow}
    (stopped : Wallet.commit desk.wallet = .error overflow) :
    commit.result desk = (.error overflow, desk) := by
  have started : Work.result (get : Work ν ω (Desk ν ω)) desk = (.ok desk, desk) := rfl
  unfold commit
  rw [Work.result_bind_ok started, stopped]
  rfl

theorem commit_advanced {desk : Desk ν ω} {wallet : ω} {events : List Event}
    (committed : Wallet.commit desk.wallet = .ok (wallet, events)) :
    commit.result desk = (.ok (), { desk with wallet, log := desk.log ++ events }) := by
  have started : Work.result (get : Work ν ω (Desk ν ω)) desk = (.ok desk, desk) := rfl
  unfold commit
  rw [Work.result_bind_ok started, committed]
  rfl

def bodyFor {μ : Type} [Wire μ] (desk : Desk ν ω) (contract : String) (message : μ) : Tx.Body :=
  { messages := [⟨Wallet.address desk.wallet, contract, Wire.encode message, []⟩] }

end

variable [ChainAccess ν] [Wallet ω]

theorem submit_unsigned {body : Tx.Body} {desk : Desk ν ω} {trail : Trail} {wallet : ω}
    (signed : Wallet.sign body executionFee desk.wallet = (.error trail, wallet)) :
    (submit body).run desk =
      (.error (trail.within "Failed to sign transaction!"), { desk with wallet }) := by
  have asked : (onWallet (ν := ν) (Wallet.sign body executionFee)).run desk =
      (.error trail, { desk with wallet }) := by
    simp only [onWallet, StateT.run, signed]
  rw [submit, StateT.run_bind, asked]
  rfl

theorem submit_signed {body : Tx.Body} {desk : Desk ν ω} {tx : Tx.Signed} {wallet : ω} {chain : ν}
    {outcome : Except Trail Tx.Response}
    (signed : Wallet.sign body executionFee desk.wallet = (.ok tx, wallet))
    (sent : ChainAccess.broadcast tx desk.chain = (outcome, chain)) :
    (submit body).run desk = (outcome, { desk with wallet, chain }) := by
  have asked : (onWallet (ν := ν) (Wallet.sign body executionFee)).run desk =
      (.ok tx, { desk with wallet }) := by
    simp only [onWallet, StateT.run, signed]
  rw [submit, StateT.run_bind, asked]
  change (onChain (ChainAccess.broadcast tx)).run { desk with wallet } = _
  simp only [onChain, StateT.run, sent]

/-- The ways in which an execution can end, by how far it gets. -/
inductive Executed (contract operation : String) (body : Tx.Body) (desk : Desk ν ω) :
    Except Overflow (Except Trail Tx.Response) × Desk ν ω → Prop where
  | unsigned {trail : Trail} {wallet : ω}
      (signed : Wallet.sign body executionFee desk.wallet = (.error trail, wallet)) :
      Executed contract operation body desk
        (.ok (.error (trail.within "Failed to sign transaction!")), { desk with wallet })
  | unsent {tx : Tx.Signed} {trail : Trail} {wallet : ω} {chain : ν}
      (signed : Wallet.sign body executionFee desk.wallet = (.ok tx, wallet))
      (sent : ChainAccess.broadcast tx desk.chain = (.error trail, chain)) :
      Executed contract operation body desk (.ok (.error trail), { desk with wallet, chain })
  | refused {tx : Tx.Signed} {response : Tx.Response} {wallet : ω} {chain : ν}
      (signed : Wallet.sign body executionFee desk.wallet = (.ok tx, wallet))
      (sent : ChainAccess.broadcast tx desk.chain = (.ok response, chain))
      (refused : response.isAccepted = false) :
      Executed contract operation body desk (.ok (.ok response),
        { wallet, chain, log := desk.log ++ [.refused contract operation response] })
  | taken {tx : Tx.Signed} {response : Tx.Response} {wallet advanced : ω} {chain : ν}
      {events : List Event}
      (signed : Wallet.sign body executionFee desk.wallet = (.ok tx, wallet))
      (sent : ChainAccess.broadcast tx desk.chain = (.ok response, chain))
      (accepted : response.isAccepted = true)
      (committed : Wallet.commit wallet = .ok (advanced, events)) :
      Executed contract operation body desk (.ok (.ok response),
        { wallet := advanced, chain,
          log := desk.log ++ events ++ [.accepted contract operation response] })
  | stopped {tx : Tx.Signed} {response : Tx.Response} {wallet : ω} {chain : ν} {overflow : Overflow}
      (signed : Wallet.sign body executionFee desk.wallet = (.ok tx, wallet))
      (sent : ChainAccess.broadcast tx desk.chain = (.ok response, chain))
      (accepted : response.isAccepted = true)
      (committed : Wallet.commit wallet = .error overflow) :
      Executed contract operation body desk (.error overflow, { desk with wallet, chain })

theorem exists_executed (contract operation : String) (body : Tx.Body) (desk : Desk ν ω) :
    ∃ result, Executed contract operation body desk result := by
  cases signed : Wallet.sign body executionFee desk.wallet with
  | mk outcome wallet =>
  cases outcome with
  | error trail => exact ⟨_, .unsigned signed⟩
  | ok tx =>
    cases sent : ChainAccess.broadcast tx desk.chain with
    | mk outcome chain =>
    cases outcome with
    | error trail => exact ⟨_, .unsent signed sent⟩
    | ok response =>
      cases accepted : response.isAccepted with
      | false => exact ⟨_, .refused signed sent accepted⟩
      | true =>
        cases committed : Wallet.commit wallet with
        | error overflow => exact ⟨_, .stopped signed sent accepted committed⟩
        | ok advanced => exact ⟨_, .taken signed sent accepted committed⟩

private def finish (contract operation : String) :
    Except Trail Tx.Response → Work ν ω (Except Trail Tx.Response)
  | .error trail => pure (.error trail)
  | .ok response => do
    settle contract operation response
    pure (.ok response)

theorem Executed.result_eq {μ : Type} [Wire μ] {contract operation : String} {message : μ}
    {desk : Desk ν ω} {result : Except Overflow (Except Trail Tx.Response) × Desk ν ω}
    (executed : Executed contract operation (desk.bodyFor contract message) desk result) :
    (execute contract operation message).result desk = result := by
  have unfolded : (execute contract operation message).result desk =
      (steadily (submit (desk.bodyFor contract message)) >>=
        finish contract operation).result desk := by
    rfl
  rw [unfolded]
  generalize desk.bodyFor contract message = body at executed
  cases executed with
  | unsigned signed =>
    rw [Work.result_bind_ok (by rw [Work.result_steadily, submit_unsigned signed])]
    rfl
  | unsent signed sent =>
    rw [Work.result_bind_ok (by rw [Work.result_steadily, submit_signed signed sent])]
    rfl
  | refused signed sent refused =>
    rw [Work.result_bind_ok (by rw [Work.result_steadily, submit_signed signed sent])]
    rw [finish, settle, refused]
    rfl
  | taken signed sent accepted committed =>
    rw [Work.result_bind_ok (by rw [Work.result_steadily, submit_signed signed sent])]
    rw [finish, settle, accepted]
    exact Work.result_bind_ok (Work.result_bind_ok (commit_advanced committed))
  | stopped signed sent accepted committed =>
    rw [Work.result_bind_ok (by rw [Work.result_steadily, submit_signed signed sent])]
    rw [finish, settle, accepted]
    exact Work.result_bind_error (Work.result_bind_error (commit_stopped committed))

theorem execute_executed {μ : Type} [Wire μ] (contract operation : String) (message : μ)
    (desk : Desk ν ω) :
    Executed contract operation (desk.bodyFor contract message) desk
      ((execute contract operation message).result desk) := by
  obtain ⟨result, executed⟩ := exists_executed contract operation (desk.bodyFor contract message) desk
  rw [executed.result_eq]
  exact executed

theorem sign_watched {watched wallet : WatchedWallet ω} {body : Tx.Body} {fee : Tx.Fee}
    {outcome : Except Trail Tx.Signed} (signed : Wallet.sign body fee watched = (outcome, wallet)) :
    ∃ inner, Wallet.sign body fee watched.inner = (outcome, inner) ∧ wallet =
      { watched with inner, signings := watched.signings ++ [⟨body, fee, outcome⟩] } := by
  obtain ⟨rfl, rfl⟩ := Prod.mk.inj signed
  exact ⟨_, rfl, rfl⟩

theorem broadcast_watched {watched chain : WatchedChain ν} {tx : Tx.Signed}
    {outcome : Except Trail Tx.Response} (sent : ChainAccess.broadcast tx watched = (outcome, chain)) :
    ∃ inner, ChainAccess.broadcast tx watched.inner = (outcome, inner) ∧ chain =
      { watched with inner, broadcasts := watched.broadcasts ++ [⟨tx, outcome⟩] } := by
  obtain ⟨rfl, rfl⟩ := Prod.mk.inj sent
  exact ⟨_, rfl, rfl⟩

theorem commit_watched {watched wallet : WatchedWallet ω} {events : List Event}
    (committed : Wallet.commit watched = .ok (wallet, events)) :
    ∃ inner, Wallet.commit watched.inner = .ok (inner, events) ∧ wallet =
      { watched with inner, commits := watched.commits + 1 } := by
  change (Wallet.commit watched.inner >>= _) = _ at committed
  cases inside : Wallet.commit watched.inner with
  | error overflow => rw [inside] at committed; cases committed
  | ok result =>
    rw [inside] at committed
    cases committed
    exact ⟨_, rfl, rfl⟩

theorem commit_watched_stopped {watched : WatchedWallet ω} {overflow : Overflow}
    (stopped : Wallet.commit watched = .error overflow) :
    Wallet.commit watched.inner = .error overflow := by
  change (Wallet.commit watched.inner >>= _) = _ at stopped
  cases inside : Wallet.commit watched.inner with
  | error cause => cases overflow; cases cause; rfl
  | ok result => rw [inside] at stopped; cases stopped

/-- An execution has the wallet sign one body, whatever comes of it. -/
theorem execute_signs {μ : Type} [Wire μ] (contract operation : String) (message : μ)
    (desk : Desk ν (WatchedWallet ω)) :
    ((execute contract operation message).result desk).2.wallet.signings = desk.wallet.signings ++
      [⟨desk.bodyFor contract message, executionFee,
        (Wallet.sign (desk.bodyFor contract message) executionFee desk.wallet.inner).1⟩] := by
  have executed := execute_executed contract operation message desk
  generalize (execute contract operation message).result desk = result at executed
  cases executed with
  | unsigned signed =>
    obtain ⟨inner, inside, rfl⟩ := sign_watched signed
    rw [inside]
  | unsent signed _ =>
    obtain ⟨inner, inside, rfl⟩ := sign_watched signed
    rw [inside]
  | refused signed _ _ =>
    obtain ⟨inner, inside, rfl⟩ := sign_watched signed
    rw [inside]
  | taken signed _ _ committed =>
    obtain ⟨inner, inside, rfl⟩ := sign_watched signed
    obtain ⟨advanced, _, rfl⟩ := commit_watched committed
    rw [inside]
  | stopped signed _ _ _ =>
    obtain ⟨inner, inside, rfl⟩ := sign_watched signed
    rw [inside]

/-- The desk without its watchers. -/
def bare (desk : Desk (WatchedChain ν) (WatchedWallet ω)) : Desk ν ω :=
  { chain := desk.chain.inner, wallet := desk.wallet.inner, log := desk.log }

theorem Executed.bare {contract operation : String} {body : Tx.Body}
    {desk : Desk (WatchedChain ν) (WatchedWallet ω)}
    {result : Except Overflow (Except Trail Tx.Response) × Desk (WatchedChain ν) (WatchedWallet ω)}
    (executed : Executed contract operation body desk result) :
    Executed contract operation body desk.bare (result.1, result.2.bare) := by
  cases executed with
  | unsigned signed =>
    obtain ⟨wallet, made, rfl⟩ := sign_watched signed
    exact .unsigned made
  | unsent signed sent =>
    obtain ⟨wallet, made, rfl⟩ := sign_watched signed
    obtain ⟨chain, answered, rfl⟩ := broadcast_watched sent
    exact .unsent made answered
  | refused signed sent refused =>
    obtain ⟨wallet, made, rfl⟩ := sign_watched signed
    obtain ⟨chain, answered, rfl⟩ := broadcast_watched sent
    exact .refused made answered refused
  | taken signed sent accepted committed =>
    obtain ⟨wallet, made, rfl⟩ := sign_watched signed
    obtain ⟨chain, answered, rfl⟩ := broadcast_watched sent
    obtain ⟨advanced, counted, rfl⟩ := commit_watched committed
    exact .taken made answered accepted counted
  | stopped signed sent accepted committed =>
    obtain ⟨wallet, made, rfl⟩ := sign_watched signed
    obtain ⟨chain, answered, rfl⟩ := broadcast_watched sent
    have stopped := commit_watched_stopped committed
    exact .stopped made answered accepted stopped

private theorem execute_bare {μ : Type} [Wire μ] (contract operation : String) (message : μ)
    (desk : Desk (WatchedChain ν) (WatchedWallet ω)) :
    (execute contract operation message).result desk.bare =
      (((execute contract operation message).result desk).1,
        ((execute contract operation message).result desk).2.bare) :=
  (execute_executed contract operation message desk).bare.result_eq

/-- Whether it is watched makes no difference to what is done at a desk. -/
theorem perform_bare {α : Type} (errand : Errand α)
    (desk : Desk (WatchedChain ν) (WatchedWallet ω)) :
    errand.perform.result desk.bare =
      ((errand.perform.result desk).1, (errand.perform.result desk).2.bare) := by
  cases errand with
  | height => rfl
  | askVault vault query => rfl
  | askPool pool query => rfl
  | balance token account => rfl
  | instruct vault action => exact execute_bare _ _ _ desk
  | exitPool vault lpToken amount hook => exact execute_bare _ _ _ desk
  | increaseAllowance token spender amount expires => exact execute_bare _ _ _ desk

structure Task where
  Result : Type
  errand : Errand Result

def performAll : List Task → Work ν ω Unit
  | [] => pure ()
  | task :: tasks => do
    let _ ← task.errand.perform
    performAll tasks

def Errand.isExecution {α : Type} : Errand α → Bool
  | .instruct .. | .exitPool .. | .increaseAllowance .. => true
  | _ => false

theorem performAll_bare (tasks : List Task) (desk : Desk (WatchedChain ν) (WatchedWallet ω)) :
    (performAll tasks).result desk.bare =
      (((performAll tasks).result desk).1, ((performAll tasks).result desk).2.bare) := by
  induction tasks generalizing desk with
  | nil => rfl
  | cons task tasks ih =>
    have performed := perform_bare task.errand desk
    cases watched : task.errand.perform.result desk with
    | mk outcome after =>
    rw [watched] at performed
    rw [performAll, performAll]
    cases outcome with
    | error overflow =>
      rw [Work.result_bind_error watched, Work.result_bind_error performed]
    | ok value =>
      rw [Work.result_bind_ok watched, Work.result_bind_ok performed]
      exact ih after

end SwapDesk.Desk
