import SwapDesk.Proofs.ExecutionReading
import SwapDesk.Tx.Template

/-! Templates that are used again and again. A payload is gone when its body has been made, so
every body is the one that a fresh template makes of the payload. -/

namespace SwapDesk.Tx

namespace Template

/-- One use of a template: for a message that is yet to be written, or for a payload. -/
inductive Use where
  | message (draft : Draft)
  | raw (payload : Bytes)

namespace Use

/-- The payload of a use, unless its message cannot be written. -/
def payload : Use → Except Unwritable Bytes
  | .message (.ok json) => .ok json.bytes
  | .message (.error reason) => .error ⟨reason⟩
  | .raw payload => .ok payload

def fill : Use → StateM Template (Except Unwritable Body)
  | .message draft => apply draft
  | .raw payload => .ok <$> applyRaw payload

/-- What a use comes to on its own. -/
def made (sender contract : String) (use : Use) : Except Unwritable Body :=
  use.payload.map fun payload => { messages := [⟨sender, contract, payload, []⟩] }

end Use

def fillAll (uses : List Use) : StateM Template (List (Except Unwritable Body)) :=
  uses.mapM Use.fill

section
variable (sender contract : String)

theorem fill_run (use : Use) :
    use.fill.run ⟨sender, contract, []⟩ = (use.made sender contract, ⟨sender, contract, []⟩) := by
  cases use with
  | raw payload => rfl
  | message draft =>
    cases draft with
    | ok json => rfl
    | error reason => rfl

/-- Every use finds the template as the first one found it. -/
theorem fillAll_run (uses : List Use) :
    (fillAll uses).run ⟨sender, contract, []⟩ =
      (uses.map (Use.made sender contract), ⟨sender, contract, []⟩) := by
  induction uses with
  | nil => rfl
  | cons use uses ih =>
    have later : (uses.mapM Use.fill).run ⟨sender, contract, []⟩ = _ := ih
    rw [fillAll, List.mapM_cons, StateT.run_bind, fill_run]
    change (uses.mapM Use.fill >>= _).run _ = _
    rw [StateT.run_bind, later]
    rfl

end

end Template

/-- The bytes of a body with one message, and with nothing besides, hold that message alone. -/
theorem encode_single (execution : Execution) :
    Body.encode { messages := [execution] } =
      Protobuf.message 1 (Protobuf.Typed.encode ⟨Execution.typeUrl, execution.encode⟩) := by
  have memo : Protobuf.text 2 "" = [] := rfl
  have timeout : Protobuf.number 3 0 = [] := rfl
  rw [Body.encode, memo, timeout, List.append_nil, List.append_nil]
  exact List.append_nil _

namespace Template

/-- Uses of one template do not tell on each other. Each makes the body that a fresh template
makes, with one execution that carries the payload of this use, and leaves the template without
a payload. Lengths travel as numbers of 64 bits, so no longer text or payload can be read back. -/
theorem payloads_do_not_mix (sender contract : String) (uses : List Use) :
    let fresh : Template := ⟨sender, contract, []⟩
    ((fillAll uses).run fresh).1 = uses.map (fun use => (use.fill.run fresh).1) ∧
    (∀ done, done <+: uses → ((fillAll done).run fresh).2 = fresh) ∧
    (∀ use ∈ uses,
      (∀ reason, use.payload = .error reason → (use.fill.run fresh).1 = .error reason) ∧
      ∀ payload, use.payload = .ok payload → ∃ (body : Body) (message : Protobuf.Typed),
        (use.fill.run fresh).1 = .ok body ∧
        body.messages = [⟨sender, contract, payload, []⟩] ∧
        body.memo = "" ∧ body.timeoutHeight = 0 ∧
        body.encode = Protobuf.message 1 message.encode ∧
        message.typeUrl = "/cosmwasm.wasm.v1.MsgExecuteContract" ∧
        ((Text.bytes sender).length < 2 ^ 64 → (Text.bytes contract).length < 2 ^ 64 →
          payload.length < 2 ^ 64 →
          message.decode "/cosmwasm.wasm.v1.MsgExecuteContract" Received.merge {} =
            .ok ⟨sender, contract, payload, []⟩)) := by
  intro fresh
  refine ⟨?_, ?_, ?_⟩
  · rw [fillAll_run]
    apply List.map_congr_left
    intro use _
    exact congrArg Prod.fst (fill_run sender contract use).symm
  · intro done _
    rw [fillAll_run]
  intro use _
  rw [fill_run, Use.made]
  constructor
  · intro reason unwritable
    rw [unwritable]
    rfl
  · intro payload written
    rw [written]
    refine ⟨_, ⟨Execution.typeUrl, _⟩, rfl, rfl, rfl, rfl, encode_single _, rfl, ?_⟩
    intro shortSender shortContract shortPayload
    exact decode_typed rfl shortSender shortContract shortPayload

/-- An empty payload after a message that could not be written and a payload of two bytes. -/
theorem empty_payload_is_read_back :
    let uses : List Use := [.raw [123, 125], .message (.error "no"), .raw []]
    ∃ (body : Body) (message : Protobuf.Typed),
      ((fillAll uses).run ⟨"sender", "contract", []⟩).1[2]? = some (.ok body) ∧
      body.encode = Protobuf.message 1 message.encode ∧
      message.decode "/cosmwasm.wasm.v1.MsgExecuteContract" Received.merge {} =
        .ok ⟨"sender", "contract", [], []⟩ := by
  intro uses
  obtain ⟨alone, _, each⟩ := payloads_do_not_mix "sender" "contract" uses
  obtain ⟨body, message, made, _, _, _, written, _, read⟩ :=
    (each (.raw []) (by simp [uses])).2 [] rfl
  refine ⟨body, message, ?_, written, read (by decide) (by decide) (by decide)⟩
  rw [alone]
  exact congrArg some made

end Template

end SwapDesk.Tx
