import SwapDesk.Proofs.LineRepair
import SwapDesk.Proofs.SweepItinerary

/-! Conversations with a node. A conversation has every attempt to make a link and every call
together with its answer, so what a caller did can be judged by what it had been told. -/

namespace SwapDesk.Node

/-- An attempt to make a link with its fault, if any, or a call with the node's answer. -/
inductive Talk where
  | dialled (uri : Uri) (fault : Option DialFault)
  | called (call : Call) (answer : Except Status call.Reply)

def Talk.call? : Talk → Option Call
  | .dialled _ _ => none
  | .called call _ => some call

/-- The calls of a conversation, in the order in which they were sent. -/
def calls (talk : List Talk) : List Call := talk.filterMap Talk.call?

theorem calls_append (talk later : List Talk) : calls (talk ++ later) = calls talk ++ calls later :=
  List.filterMap_append

/-- A far end that behaves as the one inside it, with all that was said to it. -/
structure Overheard (τ : Type) where
  inner : τ
  talk : List Talk := []

variable {τ : Type} [Endpoint τ]

instance : Endpoint (Overheard τ) where
  Link := Endpoint.Link τ
  dial uri := fun ⟨inner, talk⟩ =>
    let (result, inner) := Endpoint.dial uri inner
    (result, ⟨inner, talk ++ [.dialled uri (errorOf? result)]⟩)
  send link call := fun ⟨inner, talk⟩ =>
    let (answer, inner) := Endpoint.send link call inner
    (answer, ⟨inner, talk ++ [.called call answer]⟩)

theorem dial_overheard {overheard after : Overheard τ} {uri : Uri}
    {outcome : Except DialFault (Endpoint.Link τ)}
    (dialled : Endpoint.dial (τ := Overheard τ) uri overheard = (outcome, after)) :
    after.talk = overheard.talk ++ [.dialled uri (errorOf? outcome)] := by
  obtain ⟨rfl, rfl⟩ := Prod.mk.inj dialled
  rfl

theorem send_overheard {overheard after : Overheard τ} {link : Endpoint.Link τ} {call : Call}
    {answer : Except Status call.Reply}
    (sent : Endpoint.send (τ := Overheard τ) link call overheard = (answer, after)) :
    after.talk = overheard.talk ++ [.called call answer] := by
  obtain ⟨rfl, rfl⟩ := Prod.mk.inj sent
  rfl

theorem ChainId.text_of_ofText {text : String} {chainId : ChainId}
    (read : ofText text = .ok chainId) : chainId.text = text := by
  unfold ofText at read
  split at read
  next =>
    cases read
    rfl
  next =>
    split at read
    · cases read
    · cases read

/-- Whether a call that ends so leaves the line broken. -/
def breaks {ρ : Type} : Except CallFault ρ → Bool
  | .ok _ => false
  | .error (.unlinked _) => true
  | .error (.status status) => status.code.isTransport

/-- What is said for one call, given whether the line is broken, and how the call ends. -/
inductive Said (uri : Uri) (call : Call) :
    (broken : Bool) → List Talk → Except CallFault call.Reply → Prop where
  | asked {answer : Except Status call.Reply} :
      Said uri call false [.called call answer] (answer.mapError .status)
  | repaired {answer : Except Status call.Reply} :
      Said uri call true [.dialled uri none, .called call answer] (answer.mapError .status)
  | unlinked {cause : DialFault} :
      Said uri call true [.dialled uri (some cause)] (.error (.unlinked cause))

theorem Said.calls {uri : Uri} {call : Call} {broken : Bool} {talk : List Talk}
    {outcome : Except CallFault call.Reply} (said : Said uri call broken talk outcome) :
    (calls talk).Sublist [call] := by
  cases said with
  | asked => exact .refl _
  | repaired => exact .refl _
  | unlinked => exact List.nil_sublist _

namespace Connection

/-- The same address is talked to, and the given talk has come to the end of the conversation. -/
structure Continues (before : Connection (Overheard τ)) (talk : List Talk)
    (after : Connection (Overheard τ)) : Prop where
  talk : after.remote.talk = before.remote.talk ++ talk
  uri : after.line.uri = before.line.uri

theorem Continues.refl (connection : Connection (Overheard τ)) :
    Continues connection [] connection := ⟨(List.append_nil _).symm, rfl⟩

theorem Continues.trans {before between after : Connection (Overheard τ)} {talk later : List Talk}
    (first : Continues before talk between) (second : Continues between later after) :
    Continues before (talk ++ later) after := by
  refine ⟨?_, second.uri.trans first.uri⟩
  rw [second.talk, first.talk, List.append_assoc]

/-- What follows the repair: the call is sent once, and its answer settles the rest. -/
private theorem request_answered {before linked : Connection (Overheard τ)} {talk : List Talk}
    (call : Call) (repaired : repair.run before = (.ok (), linked))
    (intact : linked.line.isBroken = false) (continues : Continues before talk linked) :
    ∃ (answer : Except Status call.Reply) (after : Connection (Overheard τ)),
      (request call).run before = (answer.mapError .status, after) ∧
      Continues before (talk ++ [.called call answer]) after ∧
      after.line.isBroken = breaks (answer.mapError .status) := by
  rw [request_linked call repaired intact]
  cases sent : Endpoint.send (τ := Overheard τ) linked.line.link call linked.remote with
  | mk answer remote =>
  have heard : remote.talk = before.remote.talk ++ (talk ++ [.called call answer]) := by
    rw [send_overheard sent, continues.talk, List.append_assoc]
  cases answer with
  | ok reply => exact ⟨.ok reply, _, rfl, ⟨heard, continues.uri⟩, intact⟩
  | error status => exact ⟨.error status, _, rfl, ⟨heard, continues.uri⟩, rfl⟩

theorem request_said (call : Call) (before : Connection (Overheard τ)) :
    ∃ talk outcome after, (request call).run before = (outcome, after) ∧
      Said before.line.uri call before.line.isBroken talk outcome ∧
      Continues before talk after ∧ after.line.isBroken = breaks outcome := by
  cases broken : before.line.isBroken with
  | false =>
    obtain ⟨answer, after, requested, continues, left⟩ :=
      request_answered call (repair_intact broken) broken (.refl before)
    exact ⟨_, _, after, requested, .asked, continues, left⟩
  | true =>
    have repaired := repair_broken broken
    cases dialled : Endpoint.dial before.line.uri before.remote with
    | mk outcome remote =>
    have heard := dial_overheard dialled
    rw [dialled] at repaired
    cases outcome with
    | error cause =>
      exact ⟨_, _, _, request_unlinked call repaired, .unlinked, ⟨heard, rfl⟩, broken⟩
    | ok link =>
      obtain ⟨answer, after, requested, continues, left⟩ :=
        request_answered call repaired rfl ⟨heard, rfl⟩
      exact ⟨_, _, after, requested, .repaired, continues, left⟩

/-- On an intact line a step makes one call, finds its outcome in the answer, and leaves the line
intact if it succeeds. -/
def Asks {α : Type} (step : ExceptT Fault (StateM (Connection (Overheard τ))) α) (call : Call)
    (finds : Except Status call.Reply → Except Fault α → Prop) : Prop :=
  ∀ before, before.line.isBroken = false → ∃ answer outcome after,
    settled step before = (outcome, after) ∧ finds answer outcome ∧
    Continues before [.called call answer] after ∧
    ∀ value, outcome = .ok value → after.line.isBroken = false

theorem asks_consult {α : Type} {call : Call} {refused : Status → Fault}
    {next : call.Reply → ExceptT Fault (StateM (Connection (Overheard τ))) α}
    {finds : Except Status call.Reply → Except Fault α → Prop}
    (refuses : ∀ status, finds (.error status) (.error (refused status)))
    (replied : ∀ reply, ∃ outcome, finds (.ok reply) outcome ∧
      ∀ after, settled (next reply) after = (outcome, after)) :
    Asks (consult call refused >>= next) call finds := by
  intro before intact
  obtain ⟨answer, after, requested, continues, left⟩ :=
    request_answered call (repair_intact intact) intact (.refl before)
  have consulted := consult_settled refused requested
  cases answer with
  | error status =>
    exact ⟨_, _, after, settled_bind_error consulted, refuses status, continues, nofun⟩
  | ok reply =>
    obtain ⟨outcome, found, steady⟩ := replied reply
    exact ⟨_, outcome, after, (settled_bind_ok consulted).trans (steady after), found, continues,
      fun _ _ => left⟩

/-- What an answer says of the name of the chain. -/
inductive Named : Except Status (Option String) → Except Fault ChainId → Prop where
  | refused {status : Status} : Named (.error status) (.error (.noNodeInfo status))
  | empty : Named (.ok none) (.error .emptyNodeInfo)
  | malformed {text : String} {cause : ChainIdFault} (bad : ChainId.ofText text = .error cause) :
      Named (.ok (some text)) (.error (.badChainId text cause))
  | named {chainId : ChainId} : Named (.ok (some chainId.text)) (.ok chainId)

/-- What an answer says of an account. -/
inductive Recorded (address : String) :
    Except Status (Option Protobuf.Typed) → Except Fault Account.Record → Prop where
  | refused {status : Status} :
      Recorded address (.error status) (.error (.noAccount address status))
  | empty : Recorded address (.ok none) (.error (.emptyAccount address))
  | malformed {typed : Protobuf.Typed} {cause : Account.Record.Fault}
      (bad : Account.Record.ofTyped typed = .error cause) :
      Recorded address (.ok (some typed)) (.error (.badAccount cause))
  | recorded {typed : Protobuf.Typed} {record : Account.Record}
      (good : Account.Record.ofTyped typed = .ok record) :
      Recorded address (.ok (some typed)) (.ok record)

/-- What an answer says of the height of the latest block. -/
inductive Measured : Except Status (Option (Option Int)) → Except Fault Nat → Prop where
  | refused {status : Status} : Measured (.error status) (.error (.noLatestBlock status))
  | blockless : Measured (.ok none) (.error .emptyLatestBlock)
  | headless : Measured (.ok (some none)) (.error .noHeader)
  | measured {height : Int} : Measured (.ok (some (some height))) (.ok height.natAbs)

theorem asks_chainId : Asks (τ := τ) chainId .nodeInfo Named := by
  refine asks_consult (fun _ => .refused) fun reply => ?_
  cases reply with
  | none => exact ⟨_, .empty, fun _ => rfl⟩
  | some text =>
    refine ⟨(ChainId.ofText text).mapError (.badChainId text), ?_, fun _ => rfl⟩
    cases read : ChainId.ofText text with
    | error cause => exact .malformed read
    | ok chainId =>
      rw [← ChainId.text_of_ofText read]
      exact .named

theorem asks_account (address : String) :
    Asks (τ := τ) (account address) (.account address) (Recorded address) := by
  refine asks_consult (fun _ => .refused) fun reply => ?_
  cases reply with
  | none => exact ⟨_, .empty, fun _ => rfl⟩
  | some typed =>
    refine ⟨(Account.Record.ofTyped typed).mapError .badAccount, ?_, fun _ => rfl⟩
    cases read : Account.Record.ofTyped typed with
    | error cause => exact .malformed read
    | ok record => exact .recorded read

theorem asks_latestHeight : Asks (τ := τ) latestHeight .latestBlock Measured := by
  refine asks_consult (fun _ => .refused) fun reply => ?_
  obtain _ | _ | height := reply
  · exact ⟨_, .blockless, fun _ => rfl⟩
  · exact ⟨_, .headless, fun _ => rfl⟩
  · exact ⟨_, .measured, fun _ => rfl⟩

end Connection

open Desk (Request)

def Call.ofRequest (request : Request) : Call := .smart request.contract request.payload

/-- What is said when requests are made one after the other, whatever the node answers. A broken
line is repaired before the next of them is sent, and that one stays unsent if the repair fails. -/
inductive Polled (uri : Uri) : (broken : Bool) → List Request → List Talk → Prop where
  | done {broken : Bool} : Polled uri broken [] []
  | next {broken : Bool} {request : Request} {requests : List Request} {talk later : List Talk}
      {outcome : Except CallFault (Call.ofRequest request).Reply}
      (said : Said uri (Call.ofRequest request) broken talk outcome)
      (rest : Polled uri (breaks outcome) requests later) :
      Polled uri broken (request :: requests) (talk ++ later)

theorem Polled.calls {uri : Uri} {broken : Bool} {requests : List Request} {talk : List Talk}
    (polled : Polled uri broken requests talk) :
    (calls talk).Sublist (requests.map Call.ofRequest) := by
  induction polled with
  | done => exact .slnil
  | next said rest ih =>
    rw [calls_append]
    exact said.calls.append ih

theorem poll_overheard (requests : List Request) (before : Connection (Overheard τ)) :
    ∃ talk, before.Continues talk (Desk.poll requests before) ∧
      Polled before.line.uri before.line.isBroken requests talk := by
  induction requests generalizing before with
  | nil => exact ⟨[], .refl before, .done⟩
  | cons request requests ih =>
    obtain ⟨talk, outcome, after, requested, said, continues, left⟩ :=
      before.request_said (Call.ofRequest request)
    have moved : Desk.poll (request :: requests) before = Desk.poll requests after := by
      have heard := smart_heard requested
      exact congrArg (Desk.poll requests) (congrArg Prod.snd heard)
    obtain ⟨later, continued, rest⟩ := ih after
    rw [moved]
    refine ⟨talk ++ later, continues.trans continued, .next said ?_⟩
    rw [← left, ← continues.uri]
    exact rest

end SwapDesk.Node
