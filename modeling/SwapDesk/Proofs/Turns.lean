import SwapDesk.Proofs.DeskWork
import SwapDesk.Proofs.RequestPayloads

/-! The turns of a session. A session is as long as its list of errands, unless it stops on the
way; what it leaves behind adds up from what its turns do, one after the other. -/

namespace SwapDesk.Desk

variable {ν ω α β : Type}

/-- A message to a contract: an operation and its fields. -/
structure Request where
  contract : String
  operation : String
  fields : List (String × Json)

/-- An object with one member, whose key is the operation. -/
def Request.payload (request : Request) : Bytes :=
  (Json.object [(request.operation, .object request.fields)]).bytes

def Request.sent (request : Request) : String × Bytes := (request.contract, request.payload)

def Errand.question? : Errand α → Option Request
  | @askVault _ _ vault query => some ⟨vault, query.name, query.fields⟩
  | @askPool _ _ pool query => some ⟨pool, query.name, query.fields⟩
  | .balance token account => some ⟨token, "balance", [("address", .text account)]⟩
  | _ => none

def Errand.order? : Errand α → Option Request
  | .instruct vault action => some ⟨vault, action.name, action.fields⟩
  | .exitPool vault lpToken amount hook =>
    some ⟨lpToken, "send", [("contract", .text vault), ("amount", amount.spelled),
      ("msg", .text (Base64.encode (Wire.encode hook)))]⟩
  | .increaseAllowance token spender amount expires =>
    some ⟨token, "increase_allowance", [("spender", .text spender), ("amount", amount.spelled),
      ("expires", .orNull Expiration.spelled expires)]⟩
  | _ => none

theorem payload_of_json {μ : Type} [Wire μ] (contract : String) {operation : String}
    {fields : List (String × Json)} {message : μ}
    (spelled : Wire.json message = .object [(operation, .object fields)]) :
    Wire.encode message = Request.payload ⟨contract, operation, fields⟩ :=
  congrArg Json.bytes spelled

/-- One errand of a session with the desk that it found. -/
structure Turn (ν ω : Type) where
  task : Task
  before : Desk ν ω

variable [ChainAccess ν] [Wallet ω]

namespace Turn

def outcome (turn : Turn ν ω) : Except Overflow turn.task.Result :=
  (turn.task.errand.perform.result turn.before).1

def after (turn : Turn ν ω) : Desk ν ω := (turn.task.errand.perform.result turn.before).2

end Turn

/-- The turns of a session. A turn that stops the program is the last one. -/
def turns : List Task → Desk ν ω → List (Turn ν ω)
  | [], _ => []
  | task :: tasks, desk =>
    let turn : Turn ν ω := ⟨task, desk⟩
    turn :: match turn.outcome with
      | .ok _ => turns tasks turn.after
      | .error _ => []

theorem performAll_cons_ok {task : Task} {desk : Desk ν ω} {value : task.Result} (tasks : List Task)
    (done : (Turn.mk task desk).outcome = .ok value) :
    (performAll (task :: tasks)).result desk = (performAll tasks).result (Turn.mk task desk).after ∧
      turns (task :: tasks) desk = ⟨task, desk⟩ :: turns tasks (Turn.mk task desk).after := by
  have performed : task.errand.perform.result desk = (.ok value, (Turn.mk task desk).after) :=
    Prod.ext done rfl
  refine ⟨?_, ?_⟩
  · rw [performAll, Work.result_bind_ok performed]
  · rw [turns, done]

theorem performAll_cons_error {task : Task} {desk : Desk ν ω} {overflow : Overflow}
    (tasks : List Task) (stopped : (Turn.mk task desk).outcome = .error overflow) :
    (performAll (task :: tasks)).result desk = (.error overflow, (Turn.mk task desk).after) ∧
      turns (task :: tasks) desk = [⟨task, desk⟩] := by
  have performed : task.errand.perform.result desk = (.error overflow, (Turn.mk task desk).after) :=
    Prod.ext stopped rfl
  refine ⟨?_, ?_⟩
  · rw [performAll, Work.result_bind_error performed]
  · rw [turns, stopped]

/-- Errands are taken in order, and none is left out unless the session stops. -/
theorem turns_in_order (tasks : List Task) (desk : Desk ν ω) :
    (turns tasks desk).map Turn.task <+: tasks ∧
      (((performAll tasks).result desk).1 = .ok () → (turns tasks desk).map Turn.task = tasks) := by
  induction tasks generalizing desk with
  | nil => exact ⟨List.prefix_rfl, fun _ => rfl⟩
  | cons task tasks ih =>
    cases ended : (Turn.mk task desk).outcome with
    | error overflow =>
      obtain ⟨performed, taken⟩ := performAll_cons_error tasks ended
      rw [performed, taken]
      exact ⟨⟨tasks, rfl⟩, nofun⟩
    | ok value =>
      obtain ⟨performed, taken⟩ := performAll_cons_ok tasks ended
      obtain ⟨inOrder, all⟩ := ih (Turn.mk task desk).after
      rw [performed, taken, List.map_cons]
      refine ⟨List.cons_prefix_cons.mpr ⟨rfl, inOrder⟩, ?_⟩
      intro done
      rw [all done]

/-- A list that each turn prolongs by at most one item holds the items of all turns. -/
theorem performAll_gains (view : Desk ν ω → List β) (gain : Turn ν ω → Option β)
    (gains : ∀ turn : Turn ν ω, view turn.after = view turn.before ++ (gain turn).toList)
    (tasks : List Task) (desk : Desk ν ω) :
    view ((performAll tasks).result desk).2 = view desk ++ (turns tasks desk).filterMap gain := by
  induction tasks generalizing desk with
  | nil => exact (List.append_nil _).symm
  | cons task tasks ih =>
    have gained := gains ⟨task, desk⟩
    cases ended : (Turn.mk task desk).outcome with
    | error overflow =>
      obtain ⟨performed, taken⟩ := performAll_cons_error tasks ended
      rw [performed, taken, gained, List.filterMap_cons]
      cases gain ⟨task, desk⟩ <;> rfl
    | ok value =>
      obtain ⟨performed, taken⟩ := performAll_cons_ok tasks ended
      rw [performed, taken, ih, gained, List.append_assoc, List.filterMap_cons]
      cases gain ⟨task, desk⟩ <;> rfl

/-- A law on desks, and on whether what was done last has ended, that every turn keeps. -/
theorem performAll_keeps (law : Bool → Desk ν ω → Prop)
    (keeps : ∀ turn : Turn ν ω, law true turn.before → law turn.outcome.isOk turn.after)
    (tasks : List Task) {desk : Desk ν ω} (holds : law true desk) :
    law ((performAll tasks).result desk).1.isOk ((performAll tasks).result desk).2 := by
  induction tasks generalizing desk with
  | nil => exact holds
  | cons task tasks ih =>
    have kept := keeps ⟨task, desk⟩ holds
    cases ended : (Turn.mk task desk).outcome with
    | error overflow =>
      rw [ended] at kept
      rw [(performAll_cons_error tasks ended).1]
      exact kept
    | ok value =>
      rw [ended] at kept
      rw [(performAll_cons_ok tasks ended).1]
      exact ih kept

end SwapDesk.Desk
