import SwapDesk.Desk.Query
import SwapDesk.Node.Watched
import SwapDesk.Proofs.StatefulErrors

/-! Repair of the line. Every call makes contact with the far end in one of the ways that
`Exchange` lists; the rest follows from there, for all interfaces and for any order of calls. -/

namespace SwapDesk.Node

variable {τ : Type} [Endpoint τ]

theorem Code.isTransport_iff (code : Code) : code.isTransport = true ↔
    code ∈ [.unavailable, .deadlineExceeded, .cancelled, .aborted, .resourceExhausted] := by
  cases code <;> decide

namespace Connection

theorem repair_intact {connection : Connection τ} (intact : connection.line.isBroken = false) :
    repair.run connection = (.ok (), connection) := by
  unfold repair
  rw [StateT.run_bind, StateT.run_get]
  simp only [pure_bind, intact, Bool.false_eq_true, ite_false]
  rfl

theorem repair_broken {connection : Connection τ} (broken : connection.line.isBroken = true) :
    repair.run connection = match Endpoint.dial connection.line.uri connection.remote with
      | (.error cause, remote) => (.error cause, { connection with remote })
      | (.ok link, remote) =>
        (.ok (), ⟨{ connection.line with link, isBroken := false }, remote⟩) := by
  unfold repair
  rw [StateT.run_bind, StateT.run_get]
  simp only [pure_bind, broken, ite_true]
  rw [StateT.run_bind]
  simp only [atRemote, StateT.run]
  cases Endpoint.dial connection.line.uri connection.remote with
  | mk outcome remote => cases outcome <;> rfl

theorem request_unlinked {connection after : Connection τ} {cause : DialFault} (call : Call)
    (failed : repair.run connection = (.error cause, after)) :
    (request call).run connection = (.error (.unlinked cause), after) := by
  unfold request
  rw [StateT.run_bind, failed]
  rfl

theorem observe_intact {connection : Connection τ} (status : Status)
    (intact : connection.line.isBroken = false) : (observe status).run connection =
      ((), ⟨{ connection.line with isBroken := status.code.isTransport }, connection.remote⟩) := by
  obtain ⟨⟨uri, link, isBroken⟩, remote⟩ := connection
  change isBroken = false at intact
  subst intact
  unfold observe
  cases status.code.isTransport with
  | true => rfl
  | false => rfl

private def transmit (call : Call) : StateM (Connection τ) (Except CallFault call.Reply) := do
  let connection ← get
  match ← atRemote (Endpoint.send connection.line.link call) with
  | .ok reply => pure (.ok reply)
  | .error status =>
    observe status
    pure (.error (.status status))

theorem request_linked {connection linked : Connection τ} (call : Call)
    (repaired : repair.run connection = (.ok (), linked)) (intact : linked.line.isBroken = false) :
    (request call).run connection =
      match Endpoint.send linked.line.link call linked.remote with
      | (.ok reply, remote) => (.ok reply, { linked with remote })
      | (.error status, remote) => (.error (.status status),
          ⟨{ linked.line with isBroken := status.code.isTransport }, remote⟩) := by
  unfold request
  rw [StateT.run_bind, repaired]
  change (transmit call).run linked = _
  unfold transmit
  rw [StateT.run_bind, StateT.run_get]
  simp only [pure_bind]
  rw [StateT.run_bind]
  simp only [atRemote, StateT.run]
  cases Endpoint.send linked.line.link call linked.remote with
  | mk outcome remote =>
  cases outcome with
  | ok reply => rfl
  | error status =>
    have observed : (observe status).run ⟨linked.line, remote⟩ = _ := observe_intact status intact
    change (do
      observe status
      pure (Except.error (CallFault.status status)) :
        StateM (Connection τ) (Except CallFault call.Reply)).run ⟨linked.line, remote⟩ = _
    rw [StateT.run_bind, observed]
    rfl

theorem dial_watched {watched after : Watched τ} {uri : Uri}
    {outcome : Except DialFault (Endpoint.Link τ)}
    (dialled : Endpoint.dial (τ := Watched τ) uri watched = (outcome, after)) :
    after.record = watched.record ++ [.dialled uri outcome] := by
  obtain ⟨rfl, rfl⟩ := Prod.mk.inj dialled
  rfl

theorem send_watched {watched after : Watched τ} {link : Endpoint.Link τ} {call : Call}
    {outcome : Except Status call.Reply}
    (sent : Endpoint.send (τ := Watched τ) link call watched = (outcome, after)) :
    after.record = watched.record ++ [.sent link call (errorOf? outcome)] := by
  obtain ⟨rfl, rfl⟩ := Prod.mk.inj sent
  rfl

/-- How a call comes by its link: it is that of an intact line, or the one that the far end gives
for the repair. -/
inductive Linked (line : Line (Watched τ)) : List (Contact τ) → Endpoint.Link τ → Prop where
  | intact (intact : line.isBroken = false) : Linked line [] line.link
  | repaired {link : Endpoint.Link τ} (broken : line.isBroken = true) :
      Linked line [.dialled line.uri (.ok link)] link

/-- The contacts that a call makes, with its outcome and the line that it leaves. -/
inductive Exchange (call : Call) (line : Line (Watched τ)) :
    List (Contact τ) → Except CallFault call.Reply → Line (Watched τ) → Prop where
  | unlinked {cause : DialFault} (broken : line.isBroken = true) :
      Exchange call line [.dialled line.uri (.error cause)] (.error (.unlinked cause)) line
  | sent {dialling : List (Contact τ)} {link : Endpoint.Link τ} {answer : Except Status call.Reply}
      (linked : Linked line dialling link) :
      Exchange call line (dialling ++ [.sent link call (errorOf? answer)])
        (answer.mapError .status)
        { line with link, isBroken := (errorOf? answer).any (·.code.isTransport) }

private theorem send_exchanges {call : Call} {before linked : Connection (Watched τ)}
    {dialling : List (Contact τ)} {link : Endpoint.Link τ}
    (repaired : repair.run before = (.ok (), linked)) (found : Linked before.line dialling link)
    (line : linked.line = { before.line with link, isBroken := false })
    (record : linked.remote.record = before.remote.record ++ dialling) :
    ∃ contacts outcome after, (request call).run before = (outcome, after) ∧
      after.remote.record = before.remote.record ++ contacts ∧
      Exchange call before.line contacts outcome after.line := by
  obtain ⟨linkedLine, remote⟩ := linked
  change linkedLine = _ at line
  subst line
  rw [request_linked call repaired rfl]
  cases sent : Endpoint.send (τ := Watched τ) link call remote with
  | mk answer after =>
  have noted := send_watched sent
  rw [record, List.append_assoc] at noted
  have exchange : Exchange call before.line (dialling ++ [.sent link call (errorOf? answer)])
      (answer.mapError .status) _ := .sent found
  cases answer with
  | ok reply => exact ⟨_, _, _, rfl, noted, exchange⟩
  | error status => exact ⟨_, _, _, rfl, noted, exchange⟩

theorem request_exchanges (call : Call) (before : Connection (Watched τ)) :
    ∃ contacts outcome after, (request call).run before = (outcome, after) ∧
      after.remote.record = before.remote.record ++ contacts ∧
      Exchange call before.line contacts outcome after.line := by
  cases broken : before.line.isBroken with
  | false =>
    refine send_exchanges (repair_intact broken) (.intact broken) ?_ (List.append_nil _).symm
    rw [← broken]
  | true =>
    have repaired := repair_broken broken
    cases dialled : Endpoint.dial before.line.uri before.remote with
    | mk outcome remote =>
    have noted := dial_watched dialled
    rw [dialled] at repaired
    cases outcome with
    | error cause =>
      exact ⟨_, _, _, request_unlinked call repaired, noted, .unlinked broken⟩
    | ok link => exact send_exchanges repaired (.repaired broken) rfl noted

/-- What becomes of a call's fault when its statuses become faults. -/
def faultOf (refused : Status → Fault) : CallFault → Fault
  | .unlinked cause => .unlinked cause
  | .status status => refused status

theorem consult_settled {call : Call} {before after : Connection τ}
    {outcome : Except CallFault call.Reply} (refused : Status → Fault)
    (requested : (request call).run before = (outcome, after)) :
    settled (consult call refused) before = (outcome.mapError (faultOf refused), after) := by
  unfold consult
  rw [settled_bind_ok (settled_lift _ before), requested]
  cases outcome with
  | ok reply => rfl
  | error fault => cases fault <;> rfl

theorem smart_settled {contract : String} {query : Bytes} {before after : Connection τ}
    {outcome : Except CallFault Bytes}
    (requested : (request (.smart contract query)).run before = (outcome, after)) :
    settled (smart contract query) before = (outcome.mapError fun
      | .unlinked cause => .connection cause.trail
      | .status status => .ofStatus status, after) := by
  unfold smart
  rw [settled_bind_ok (settled_lift _ before), requested]
  cases outcome with
  | ok reply => rfl
  | error fault => cases fault <;> rfl

end Connection

/-- A use of one of the interfaces that share the connection, indexed by what comes of it. -/
inductive Use : Type → Type where
  | chainId : Use (Except Fault ChainId)
  | latestHeight : Use (Except Fault Nat)
  | account (address : String) : Use (Except Fault Account.Record)
  | smart (contract : String) (query : Bytes) : Use (Except SmartFault Bytes)
  | broadcast (tx : Tx.Signed) : Use (Except Fault Tx.Response)

namespace Use

variable {α : Type}

def call : Use α → Call
  | .chainId => .nodeInfo
  | .latestHeight => .latestBlock
  | .account address => .account address
  | .smart contract query => .smart contract query
  | .broadcast tx => .broadcast tx.encode

def perform : Use α → StateM (Connection τ) α
  | .chainId => Connection.chainId.run
  | .latestHeight => Connection.latestHeight.run
  | .account address => (Connection.account address).run
  | .smart contract query => (Connection.smart contract query).run
  | .broadcast tx => (Connection.broadcast tx).run

/-- The error of a use whose line could not be repaired. -/
def unlinked : Use α → DialFault → α
  | .chainId, cause => .error (.unlinked cause)
  | .latestHeight, cause => .error (.unlinked cause)
  | .account _, cause => .error (.unlinked cause)
  | .smart _ _, cause => .error (.connection cause.trail)
  | .broadcast _, cause => .error (.unlinked cause)

def performAll : List ((α : Type) × Use α) → StateM (Connection τ) Unit
  | [] => pure ()
  | use :: uses => do
    let _ ← use.2.perform
    performAll uses

private theorem consulted {β : Type} {call : Call} {before after : Connection τ}
    {outcome : Except CallFault call.Reply} {refused : Status → Fault}
    {next : call.Reply → ExceptT Fault (StateM (Connection τ)) β}
    (requested : (Connection.request call).run before = (outcome, after))
    (steady : ∀ reply, (settled (next reply) after).2 = after) :
    (settled (Connection.consult call refused >>= next) before).2 = after ∧
      ∀ cause, outcome = .error (.unlinked cause) →
        (settled (Connection.consult call refused >>= next) before).1 = .error (.unlinked cause) := by
  have consulted := Connection.consult_settled refused requested
  cases outcome with
  | error fault =>
    rw [settled_bind_error consulted]
    refine ⟨rfl, ?_⟩
    intro cause same
    cases same
    rfl
  | ok reply =>
    rw [settled_bind_ok consulted]
    exact ⟨steady reply, nofun⟩

/-- A use leaves the connection as its call does. -/
theorem perform_requested (use : Use α) {before after : Connection τ}
    {outcome : Except CallFault use.call.Reply}
    (requested : (Connection.request use.call).run before = (outcome, after)) :
    (use.perform.run before).2 = after ∧
      ∀ cause, outcome = .error (.unlinked cause) →
        (use.perform.run before).1 = use.unlinked cause := by
  cases use with
  | chainId => exact consulted requested fun reply => by cases reply <;> rfl
  | latestHeight =>
    refine consulted requested fun reply => ?_
    obtain _ | _ | _ := reply <;> rfl
  | account address => exact consulted requested fun reply => by cases reply <;> rfl
  | smart contract query =>
    have answered := Connection.smart_settled requested
    change (settled (Connection.smart contract query) before).2 = after ∧ ∀ cause, _ →
      (settled (Connection.smart contract query) before).1 = _
    rw [answered]
    refine ⟨rfl, ?_⟩
    intro cause same
    rw [same]
    rfl
  | broadcast tx => exact consulted requested fun reply => by cases reply <;> rfl

/-- What one use does, in terms of the contacts that it makes. -/
theorem perform_exchanges (use : Use α) (before : Connection (Watched τ)) :
    ∃ contacts outcome,
      (use.perform.run before).2.remote.record = before.remote.record ++ contacts ∧
      Connection.Exchange use.call before.line contacts outcome (use.perform.run before).2.line ∧
      ∀ cause, outcome = .error (.unlinked cause) →
        (use.perform.run before).1 = use.unlinked cause := by
  obtain ⟨contacts, outcome, after, requested, record, exchange⟩ :=
    Connection.request_exchanges use.call before
  obtain ⟨same, unlinked⟩ := use.perform_requested requested
  rw [same]
  exact ⟨contacts, outcome, record, exchange, unlinked⟩

theorem perform_uri (use : Use α) (before : Connection (Watched τ)) :
    (use.perform.run before).2.line.uri = before.line.uri := by
  obtain ⟨_, _, _, exchange, _⟩ := use.perform_exchanges before
  generalize (use.perform.run before).2.line = line at exchange
  cases exchange <;> rfl

theorem performAll_uri (uses : List ((α : Type) × Use α)) (before : Connection (Watched τ)) :
    ((performAll uses).run before).2.line.uri = before.line.uri := by
  induction uses generalizing before with
  | nil => rfl
  | cons use uses ih => exact (ih _).trans (perform_uri use.2 before)

end Use

def Contact.uri? : Contact τ → Option Uri
  | .dialled uri _ => some uri
  | .sent _ _ _ => none

namespace Connection

variable {call : Call} {line after : Line (Watched τ)} {contacts : List (Contact τ)}
  {outcome : Except CallFault call.Reply}

theorem Exchange.dials (exchange : Exchange call line contacts outcome after) :
    contacts.filterMap Contact.uri? = if line.isBroken then [line.uri] else [] := by
  cases exchange with
  | unlinked broken =>
    rw [broken]
    rfl
  | sent linked =>
    cases linked with
    | intact intact =>
      rw [intact]
      rfl
    | repaired broken =>
      rw [broken]
      rfl

/-- The repair comes first. -/
theorem Exchange.begins_iff (exchange : Exchange call line contacts outcome after) :
    (∃ uri outcome others, contacts = .dialled uri outcome :: others) ↔ line.isBroken = true := by
  cases exchange with
  | unlinked broken => exact ⟨fun _ => broken, fun _ => ⟨_, _, _, rfl⟩⟩
  | sent linked =>
    cases linked with
    | intact intact =>
      rw [intact]
      refine ⟨?_, nofun⟩
      intro begins
      obtain ⟨uri, outcome, others, same⟩ := begins
      cases same
    | repaired broken => exact ⟨fun _ => broken, fun _ => ⟨_, _, _, rfl⟩⟩

/-- The call goes over the link of an intact line, or over the one that was dialled for it. -/
theorem Exchange.sends (exchange : Exchange call line contacts outcome after)
    {link : Endpoint.Link τ}
    (linked : line.isBroken = false ∧ line.link = link ∨ .dialled line.uri (.ok link) ∈ contacts) :
    contacts.filterMap Contact.call? = [call] ∧ contacts.filterMap Contact.link? = [link] ∧
      after.link = link := by
  cases exchange with
  | unlinked broken =>
    rw [broken] at linked
    simp at linked
  | sent found =>
    cases found with
    | intact intact =>
      rcases linked with ⟨_, rfl⟩ | dialled
      · exact ⟨rfl, rfl, rfl⟩
      · simp at dialled
    | repaired broken =>
      rcases linked with ⟨intact, _⟩ | dialled
      · rw [broken] at intact
        cases intact
      · obtain rfl : link = _ := by simpa using dialled
        exact ⟨rfl, rfl, rfl⟩

theorem Exchange.gives_up {cause : DialFault}
    (exchange : Exchange call line contacts outcome after)
    (refused : .dialled line.uri (.error cause) ∈ contacts) :
    contacts.filterMap Contact.call? = [] ∧ outcome = .error (.unlinked cause) ∧
      after.isBroken = true := by
  cases exchange with
  | unlinked broken =>
    cases List.mem_singleton.mp refused
    exact ⟨rfl, rfl, broken⟩
  | sent found => cases found <;> simp at refused

private theorem Linked.only {dialling : List (Contact τ)} {link : Endpoint.Link τ}
    (found : Linked line dialling link) {contact : Contact τ} (member : contact ∈ dialling) :
    contact = .dialled line.uri (.ok link) := by
  cases found with
  | intact intact => cases member
  | repaired broken => exact List.mem_singleton.mp member

/-- The line is broken afterwards if the repair failed or the status speaks of the transport. -/
theorem Exchange.breaks_iff (exchange : Exchange call line contacts outcome after) :
    after.isBroken = true ↔ (∃ cause, .dialled line.uri (.error cause) ∈ contacts) ∨
      ∃ link status, .sent link call (some status) ∈ contacts ∧ status.code.isTransport = true := by
  cases exchange with
  | unlinked broken => exact ⟨fun _ => .inl ⟨_, List.mem_singleton_self _⟩, fun _ => broken⟩
  | @sent dialling link answer found =>
    constructor
    · intro broken
      cases answer with
      | ok reply => cases broken
      | error status =>
        exact .inr ⟨link, status, List.mem_append_right _ (List.mem_singleton_self _), broken⟩
    · intro seen
      rcases seen with ⟨cause, member⟩ | ⟨link', status, member, transport⟩
      · rcases List.mem_append.mp member with early | late
        · cases found.only early
        · cases List.mem_singleton.mp late
      · rcases List.mem_append.mp member with early | late
        · cases found.only early
        · have same := List.mem_singleton.mp late
          cases answer with
          | ok reply => cases same
          | error other =>
            cases same
            exact transport

end Connection

/-- What a desk hears of a query without an answer. -/
def CallFault.heard : CallFault → QueryFailure
  | .unlinked cause => .ofSmartFault (.connection cause.trail)
  | .status reported => .ofSmartFault (.ofStatus reported)

theorem smart_heard {contract : String} {query : Bytes} {before after : Connection τ}
    {outcome : Except CallFault Bytes}
    (requested : (Connection.request (.smart contract query)).run before = (outcome, after)) :
    ChainAccess.smart contract query before = (outcome.mapError CallFault.heard, after) := by
  change settled ((Connection.smart contract query).adapt QueryFailure.ofSmartFault) before = _
  rw [settled_adapt, Connection.smart_settled requested]
  cases outcome with
  | ok answer => rfl
  | error fault => cases fault <;> rfl

theorem status_heard (status : Status) : (CallFault.status status).heard.kind =
    if status.code.isTransport then .transport else .rejected := by
  change (QueryFailure.ofSmartFault (.ofStatus status)).kind = _
  unfold SmartFault.ofStatus
  split <;> rfl

/-- Reading an answer finds no fault with the transport. -/
theorem read_transport_iff {α : Type} [Wire α] (answer : Except QueryFailure Bytes) :
    (∃ reason, QueryResult.read (α := α) answer = .absent ⟨.transport, reason⟩) ↔
      ∃ failure, answer = .error failure ∧ failure.kind = .transport := by
  cases answer with
  | error failure =>
    constructor
    · intro absent
      obtain ⟨reason, same⟩ := absent
      cases same
      exact ⟨_, rfl, rfl⟩
    · intro failed
      obtain ⟨_, same, transport⟩ := failed
      cases same
      obtain ⟨kind, reason⟩ := failure
      cases transport
      exact ⟨reason, rfl⟩
  | ok bytes =>
    refine ⟨?_, nofun⟩
    intro absent
    obtain ⟨reason, same⟩ := absent
    change QueryResult.ofExcept ((Wire.decode (α := α) bytes).mapError QueryFailure.ofFault) = _ at same
    cases decoded : Wire.decode (α := α) bytes with
    | ok value =>
      rw [decoded] at same
      cases same
    | error fault =>
      rw [decoded] at same
      cases same

/-- A query ends for want of transport exactly when it leaves the line broken. -/
theorem smart_transport_iff {α : Type} [Wire α] (contract : String) (query : Bytes)
    (before : Connection (Watched τ)) :
    (∃ reason, QueryResult.read (α := α) (ChainAccess.smart contract query before).1 =
        .absent ⟨.transport, reason⟩) ↔
      (ChainAccess.smart contract query before).2.line.isBroken = true := by
  obtain ⟨contacts, outcome, after, requested, record, exchange⟩ :=
    Connection.request_exchanges (.smart contract query) before
  rw [read_transport_iff, smart_heard requested]
  change _ ↔ after.line.isBroken = true
  generalize after.line = line at exchange
  cases exchange with
  | unlinked broken => exact ⟨fun _ => broken, fun _ => ⟨_, rfl, rfl⟩⟩
  | @sent dialling link answer found =>
    cases answer with
    | ok reply =>
      refine ⟨?_, nofun⟩
      intro failed
      obtain ⟨_, same, _⟩ := failed
      cases same
    | error status =>
      change (∃ failure, (Except.error (CallFault.status status).heard : Except _ Bytes) = .error failure ∧ _) ↔
        status.code.isTransport = true
      have kind := status_heard status
      constructor
      · intro failed
        obtain ⟨failure, same, transport⟩ := failed
        cases same
        rw [kind] at transport
        split at transport
        next spoken => exact spoken
        next => cases transport
      · intro spoken
        rw [spoken] at kind
        exact ⟨_, rfl, kind⟩

/-- Whatever calls came before, a call first repairs a line that an earlier one left broken, is
sent once over the link of the line or the new one unless that fails, and leaves the line broken
exactly if the transport failed it. -/
theorem every_call_repairs_the_line {α ω : Type} (uri : Uri) (link : Endpoint.Link τ)
    (remote : Watched τ) (uses : List ((α : Type) × Use α)) (use : Use α) (wallet : ω)
    (log : List Event) :
    let opened : Connection (Watched τ) := { line := { uri, link }, remote }
    let before := ((Use.performAll uses).run opened).2
    let result := (use.perform.run before).1
    let after := (use.perform.run before).2
    (∃ contacts, after.remote.record = before.remote.record ++ contacts ∧
      contacts.filterMap Contact.uri? = (if before.line.isBroken then [uri] else []) ∧
      (∀ used, before.line.isBroken = false ∧ before.line.link = used ∨
          .dialled uri (.ok used) ∈ contacts →
        contacts.filterMap Contact.call? = [use.call] ∧
          contacts.filterMap Contact.link? = [used] ∧ after.line.link = used) ∧
      (∀ cause, .dialled uri (.error cause) ∈ contacts →
        contacts.filterMap Contact.call? = [] ∧ result = use.unlinked cause ∧
          after.line.isBroken = true) ∧
      (after.line.isBroken = true ↔ (∃ cause, .dialled uri (.error cause) ∈ contacts) ∨
        ∃ link status, .sent link use.call (some status) ∈ contacts ∧
          status.code ∈ [.unavailable, .deadlineExceeded, .cancelled, .aborted,
            .resourceExhausted])) ∧
    ∀ {μ β : Type} [Wire μ] [Wire β] (contract operation : String) (message : μ),
      let desk : Desk (Connection (Watched τ)) ω := { chain := before, wallet, log }
      let asked := (Desk.ask (α := β) contract operation message).run desk
      let left := asked.2.chain
      ((∃ reason, asked.1 = .absent ⟨.transport, reason⟩) ↔ left.line.isBroken = true) ∧
        ∀ {γ : Type} (next : Use γ),
          (∃ uri outcome others, (next.perform.run left).2.remote.record =
            left.remote.record ++ .dialled uri outcome :: others) ↔ left.line.isBroken = true := by
  intro opened before result after
  have address : before.line.uri = uri := Use.performAll_uri uses opened
  refine ⟨?_, ?_⟩
  · obtain ⟨contacts, outcome, record, exchange, unlinked⟩ := use.perform_exchanges before
    refine ⟨contacts, record, ?_, ?_, ?_, ?_⟩
    · rw [← address]
      exact exchange.dials
    · intro used linked
      rw [← address] at linked
      exact exchange.sends linked
    · intro cause refused
      rw [← address] at refused
      obtain ⟨silent, failed, broken⟩ := exchange.gives_up refused
      exact ⟨silent, unlinked cause failed, broken⟩
    · rw [← address, exchange.breaks_iff]
      simp only [Code.isTransport_iff]
  · intro μ β _ _ contract operation message desk asked left
    refine ⟨smart_transport_iff contract (Wire.encode message) before, ?_⟩
    intro γ next
    obtain ⟨contacts, _, record, exchange, _⟩ := next.perform_exchanges left
    rw [record, ← exchange.begins_iff]
    simp only [List.append_cancel_left_eq]

end SwapDesk.Node
