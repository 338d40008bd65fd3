import SwapDesk.Contract.Vault.Action
import SwapDesk.Contract.Vault.Query
import SwapDesk.Proofs.JsonReading
import SwapDesk.Proofs.MessageOutline
import SwapDesk.Proofs.WireRoundTrip

/-! What requests say. Every request is spelled out here as the JSON that the contracts expect,
field by field, without the shapes that it is written from. Its payload reads as that JSON and
as nothing else, whatever the texts in it are. -/

namespace SwapDesk

open Json (Holds)

/-- A value that is set, or an explicit null. -/
def Json.orNull {α : Type} (spell : α → Json) (value : Option α) : Json := value.elim .null spell

def Json.listed {α : Type} (spell : α → Json) (values : List α) : Json := .list (values.map spell)

/-- The name of a form that has no parts. -/
def Json.bare (name : String) : Json := .object [(name, .object [])]

def Amount.spelled (amount : Amount) : Json := .text amount.value.repr

def Decimal.spelled (decimal : Decimal) : Json := .text decimal.text

def Payload.spelled (payload : Payload) : Json := .text (Base64.encode payload.bytes)

def AssetInfo.spelled : AssetInfo → Json
  | .token contract => .object [("token", .object [("contract_addr", .text contract)])]
  | .native denom => .object [("native_token", .object [("denom", .text denom)])]

def Asset.spelled (asset : Asset) : Json :=
  .object [("info", asset.info.spelled), ("amount", asset.amount.spelled)]

def PoolKind.spelled (kind : PoolKind) : Json := .bare kind.name

def SwapSide.spelled : SwapSide → Json
  | .giveIn => .bare "give_in"
  | .giveOut => .bare "give_out"

def Expiration.spelled : Expiration → Json
  | .atHeight height => .object [("at_height", .number height.toNat)]
  | .atTime time => .object [("at_time", time.spelled)]
  | .never => .bare "never"

namespace Vault

def FeeTerms.spelled (terms : FeeTerms) : Json :=
  .object [("total_fee_bps", .number terms.totalBps.toNat),
    ("protocol_fee_percent", .number terms.protocolPercent.toNat)]

def PoolTerms.spelled (terms : PoolTerms) : Json :=
  .object [("code_id", .number terms.codeId.toNat), ("pool_type", terms.kind.spelled),
    ("fee_info", terms.fees.spelled), ("is_disabled", .boolean terms.isDisabled),
    ("is_generator_disabled", .boolean terms.isGeneratorDisabled)]

def SwapOrder.spelled (order : SwapOrder) : Json :=
  .object [("pool_id", order.poolId.spelled), ("asset_in", order.assetIn.spelled),
    ("asset_out", order.assetOut.spelled), ("swap_type", order.side.spelled),
    ("amount", order.amount.spelled), ("max_spread", .orNull Decimal.spelled order.maxSpread),
    ("belief_price", .orNull Decimal.spelled order.beliefPrice)]

def Query.fields : Query → List (String × Json)
  | .config => []
  | .registry kind => [("pool_type", kind.spelled)]
  | .poolById poolId => [("pool_id", poolId.spelled)]
  | .poolByAddress address => [("pool_addr", .text address)]

def Action.fields : Action → List (String × Json)
  | .updateConfig codeId collector generator =>
    [("lp_token_code_id", .orNull (fun id => .number id.toNat) codeId),
      ("fee_collector", .orNull .text collector), ("generator_address", .orNull .text generator)]
  | .updatePoolConfig kind disabled fees =>
    [("pool_type", kind.spelled), ("is_disabled", .orNull .boolean disabled),
      ("new_fee_info", .orNull FeeTerms.spelled fees)]
  | .addToRegistry terms => [("new_pool_config", terms.spelled)]
  | .createPool kind assets name symbol params =>
    [("pool_type", kind.spelled), ("asset_infos", .listed AssetInfo.spelled assets),
      ("lp_token_name", .orNull .text name), ("lp_token_symbol", .orNull .text symbol),
      ("init_params", .orNull Payload.spelled params)]
  | .joinPool poolId recipient assets mint params =>
    [("pool_id", poolId.spelled), ("recipient", .orNull .text recipient),
      ("assets", .orNull (.listed Asset.spelled) assets),
      ("lp_to_mint", .orNull Amount.spelled mint), ("init_params", .orNull Payload.spelled params)]
  | .swap order recipient =>
    [("swap_request", order.spelled), ("recipient", .orNull .text recipient)]
  | .proposeNewOwner owner expiry =>
    [("owner", .text owner), ("expires_in", .orNull (fun time => .number time.toNat) expiry)]
  | .dropOwnershipProposal => []
  | .claimOwnership => []

end Vault

def Pool.Query.fields : Pool.Query → List (String × Json)
  | .config => []
  | .feeParams => []
  | .poolId => []
  | .onJoin assets mint slippage =>
    [("assets_in", .orNull (.listed Asset.spelled) assets),
      ("mint_amount", .orNull Amount.spelled mint),
      ("slippage_tolerance", .orNull Decimal.spelled slippage)]
  | .onExit assets burn =>
    [("assets_out", .orNull (.listed Asset.spelled) assets),
      ("burn_amount", .orNull Amount.spelled burn)]
  | .onSwap side offer ask amount spread price =>
    [("swap_type", side.spelled), ("offer_asset", offer.spelled), ("ask_asset", ask.spelled),
      ("amount", amount.spelled), ("max_spread", .orNull Decimal.spelled spread),
      ("belief_price", .orNull Decimal.spelled price)]
  | .cumulativePrice offer ask => [("offer_asset", offer.spelled), ("ask_asset", ask.spelled)]
  | .cumulativePrices => []

namespace Token

def Query.fields : Query → List (String × Json)
  | .balance address => [("address", .text address)]

def Action.fields : Action → List (String × Json)
  | .send recipient amount message =>
    [("contract", .text recipient), ("amount", amount.spelled), ("msg", message.spelled)]
  | .increaseAllowance spender amount expires =>
    [("spender", .text spender), ("amount", amount.spelled),
      ("expires", .orNull Expiration.spelled expires)]

end Token

namespace Wire

theorem json_optional {α : Type} (shape : Shape α) (value : Option α) :
    (Shape.optional shape).json value = .orNull (fun value => shape.json value) value := by
  cases value <;> rfl

theorem json_record {α β σ : Type} (title : String) (fields : Fields σ β) (iso : Iso β α) (value : α) :
    (Shape.record title fields iso).json value = .object (fields.json (iso.parts value)) := rfl

theorem json_choice {α β : Type} (variants : Variants β) (iso : Iso β α) (value : α) :
    (Shape.choice variants iso).json value = .object [variants.json (iso.parts value)] := rfl

theorem json_poolKind (kind : PoolKind) : shape.json kind = kind.spelled := by
  cases kind <;> rfl

theorem json_swapSide (side : SwapSide) : shape.json side = side.spelled := by
  cases side <;> rfl

theorem json_assetInfo (info : AssetInfo) : shape.json info = info.spelled := by
  cases info <;> rfl

theorem json_expiration (expires : Expiration) : shape.json expires = expires.spelled := by
  cases expires <;> rfl

theorem json_asset (asset : Asset) : shape.json asset = asset.spelled := by
  refine (json_record _ _ _ _).trans ?_
  simp only [Shape.json, Fields.json, json_assetInfo]
  rfl

theorem json_poolTerms (terms : Vault.PoolTerms) : shape.json terms = terms.spelled := by
  refine (json_record _ _ _ _).trans ?_
  simp only [Shape.json, Fields.json, json_poolKind]
  rfl

theorem json_swapOrder (order : Vault.SwapOrder) : shape.json order = order.spelled := by
  refine (json_record _ _ _ _).trans ?_
  simp only [Shape.json, Fields.json, json_optional, json_assetInfo,
    json_swapSide]
  rfl

theorem json_vaultQuery (query : Vault.Query) :
    json query = .object [(query.name, .object query.fields)] := by
  cases query with
  | registry kind =>
    refine (json_choice _ _ _).trans ?_
    simp only [Fields.json, Variants.json, json_poolKind]
    rfl
  | _ => rfl

theorem json_vaultAction (action : Vault.Action) :
    json action = .object [(action.name, .object action.fields)] := by
  cases action
  all_goals
    refine (json_choice _ _ _).trans ?_
    simp only [Shape.json, Fields.json, Variants.json, json_optional,
      json_poolKind, json_assetInfo, json_asset, json_poolTerms, json_swapOrder]
    rfl

theorem json_poolQuery (query : Pool.Query) :
    json query = .object [(query.name, .object query.fields)] := by
  cases query
  all_goals
    refine (json_choice _ _ _).trans ?_
    simp only [Shape.json, Fields.json, Variants.json, json_optional,
      json_swapSide, json_assetInfo, json_asset]
    rfl

theorem json_tokenQuery (query : Token.Query) :
    json query = .object [(query.name, .object query.fields)] := by
  cases query
  rfl

theorem json_tokenAction (action : Token.Action) :
    json action = .object [(action.name, .object action.fields)] := by
  cases action
  all_goals
    refine (json_choice _ _ _).trans ?_
    simp only [Shape.json, Fields.json, Variants.json, json_optional,
      json_expiration]
    rfl

/-- Payloads that mean what the requests of a type were made for. -/
structure Faithful (μ : Type) [Wire μ] (name : μ → String) (fields : μ → List (String × Json)) :
    Prop where
  meaning : ∀ message reading,
    Holds (encode message) reading ↔ reading = .object [(name message, .object (fields message))]
  distinct : ∀ message, ((fields message).map Prod.fst).Nodup
  /-- No text, number or flag of a request has a part in where its keys stand. -/
  fixed : ∀ (message other : μ) (reading reading' : Json), shape.Alike message other →
    Holds (encode message) reading → Holds (encode other) reading' →
    reading.outline = reading'.outline
  injective : ∀ message other : μ, encode message = encode other → message = other

theorem encode_injective {α : Type} [Wire α] (value other : α) (same : encode value = encode other) :
    value = other := by
  have read := decode_encode value
  rw [same, decode_encode] at read
  exact (Except.ok.inj read).symm

theorem faithful_of_json {μ : Type} [Wire μ] {name : μ → String} {fields : μ → List (String × Json)}
    (spelled : ∀ message, json message = .object [(name message, .object (fields message))])
    (distinct : ∀ message, ((fields message).map Prod.fst).Nodup) : Faithful μ name fields where
  meaning message reading := by
    rw [← spelled message]
    exact Json.holds_bytes _ _
  distinct := distinct
  fixed message other reading reading' alike holds holds' := by
    obtain rfl := (Json.holds_bytes _ _).mp holds
    obtain rfl := (Json.holds_bytes _ _).mp holds'
    exact shape.outline_of_alike alike
  injective := encode_injective

/-- Every payload of a request is an object with one member, whose key is the request's name and
whose value holds the request's fields in order and nothing besides. -/
theorem requests_say_what_was_asked :
    Faithful Vault.Query Vault.Query.name Vault.Query.fields ∧
      Faithful Vault.Action Vault.Action.name Vault.Action.fields ∧
      Faithful Pool.Query Pool.Query.name Pool.Query.fields ∧
      Faithful Token.Query Token.Query.name Token.Query.fields ∧
      Faithful Token.Action Token.Action.name Token.Action.fields := by
  refine ⟨faithful_of_json json_vaultQuery ?_, faithful_of_json json_vaultAction ?_,
    faithful_of_json json_poolQuery ?_, faithful_of_json json_tokenQuery ?_,
    faithful_of_json json_tokenAction ?_⟩
  · intro query
    cases query <;> simp [Vault.Query.fields]
  · intro action
    cases action <;> simp [Vault.Action.fields]
  · intro query
    cases query <;> simp [Pool.Query.fields]
  · intro query
    cases query
    simp [Token.Query.fields]
  · intro action
    cases action <;> simp [Token.Action.fields]

end Wire

end SwapDesk
