import SwapDesk.Contract.Catalogue
import SwapDesk.Proofs.ReaderExtension
import SwapDesk.QueryResult

/-! The types that are read from objects with fields, and what the reader of an object knows of
its fields while it goes through the members. -/

namespace SwapDesk.Wire

variable {α β σ : Type}

/-- What holds of every type that is read from an object with fields, given the keys of the fields
that have to be present and those of the others. -/
structure EveryRecord (law : (α : Type) → [Wire α] → (needed spare : List String) → Prop) :
    Prop where
  asset : law Asset ["info", "amount"] []
  feeTerms : law Vault.FeeTerms ["total_fee_bps", "protocol_fee_percent"] []
  poolTerms : law Vault.PoolTerms ["code_id", "pool_type", "fee_info"]
    ["is_disabled", "is_generator_disabled"]
  swapOrder : law Vault.SwapOrder ["pool_id", "asset_in", "asset_out", "swap_type", "amount"]
    ["max_spread", "belief_price"]
  vaultConfig : law Vault.Config ["owner"]
    ["lp_token_code_id", "fee_collector", "generator_address", "next_pool_id"]
  pause : law Vault.Pause ["swap", "deposit"] []
  poolInfo : law Vault.PoolInfo
    ["pool_id", "pool_addr", "lp_token_addr", "fee_info", "assets", "pool_type"] ["paused"]
  poolConfig : law Pool.Config ["pool_id", "lp_token_addr", "vault_addr", "assets"] []
  fees : law Pool.Fees ["total_fee_bps"] []
  afterJoin : law Pool.AfterJoin ["provided_assets", "new_shares", "response"] ["fee"]
  afterExit : law Pool.AfterExit ["assets_out", "burn_shares", "response"] ["fee"]
  trade : law Pool.Trade ["amount_in", "amount_out", "spread"] []
  afterSwap : law Pool.AfterSwap ["trade_params", "response"] ["fee"]
  exchangeRate : law Pool.ExchangeRate ["offer_info", "ask_info", "rate"] []
  cumulativePrice : law Pool.CumulativePrice ["exchange_info", "total_share"] []
  cumulativePrices : law Pool.CumulativePrices ["exchange_infos", "total_share"] []
  balance : law Token.Balance ["balance"] []

theorem EveryRecord.imp {law other : (α : Type) → [Wire α] → (needed spare : List String) → Prop}
    (every : EveryRecord law)
    (implies : ∀ (α : Type) [Wire α] (needed spare : List String),
      law α needed spare → other α needed spare) : EveryRecord other where
  asset := implies _ _ _ every.asset
  feeTerms := implies _ _ _ every.feeTerms
  poolTerms := implies _ _ _ every.poolTerms
  swapOrder := implies _ _ _ every.swapOrder
  vaultConfig := implies _ _ _ every.vaultConfig
  pause := implies _ _ _ every.pause
  poolInfo := implies _ _ _ every.poolInfo
  poolConfig := implies _ _ _ every.poolConfig
  fees := implies _ _ _ every.fees
  afterJoin := implies _ _ _ every.afterJoin
  afterExit := implies _ _ _ every.afterExit
  trade := implies _ _ _ every.trade
  afterSwap := implies _ _ _ every.afterSwap
  exchangeRate := implies _ _ _ every.exchangeRate
  cumulativePrice := implies _ _ _ every.cumulativePrice
  cumulativePrices := implies _ _ _ every.cumulativePrices
  balance := implies _ _ _ every.balance

/-- The shape is one of an object, and the law holds of its fields. -/
def Shape.Record (law : {β σ : Type} → Fields σ β → Iso β α → Prop) : Shape α → Prop
  | .record _ fields iso => law fields iso
  | _ => False

theorem Shape.Record.imp {shape : Shape α}
    {law other : {β σ : Type} → Fields σ β → Iso β α → Prop} (holds : shape.Record law)
    (implies : ∀ {β σ : Type} (title : String) (fields : Fields σ β) (iso : Iso β α),
      shape = .record title fields iso → law fields iso → other fields iso) :
    shape.Record other := by
  cases shape with
  | record title fields iso => exact implies title fields iso rfl holds
  | _ => exact holds.elim

mutual

/-- The value is what a missing field stands for: no value, a flag that is not set, or a record
of nothing else. -/
def Shape.Unset {α : Type} : Shape α → α → Prop
  | .optional _, value => value = none
  | .flag, value => value = false
  | .record _ fields iso, value => fields.Unset (iso.parts value)
  | _, _ => False

def Fields.Unset {β σ : Type} : Fields σ β → β → Prop
  | .nil, () => True
  | .cons _ _ shape rest, (value, values) => shape.Unset value ∧ rest.Unset values

end

mutual

theorem Shape.unset_unique {α : Type} : (shape : Shape α) → {value other : α} →
    shape.Unset value → shape.Unset other → value = other
  | .optional _, _, _, unset, unset' => unset.trans (Eq.symm unset')
  | .flag, _, _, unset, unset' => unset.trans (Eq.symm unset')
  | .record _ fields iso, value, other, unset, unset' => by
    have same := fields.unset_unique unset unset'
    rw [← iso.ofParts_parts value, same, iso.ofParts_parts]

theorem Fields.unset_unique {β σ : Type} : (fields : Fields σ β) → {values others : β} →
    fields.Unset values → fields.Unset others → values = others
  | .nil, (), (), _, _ => rfl
  | .cons _ _ shape rest, (_, _), (_, _), unset, unset' =>
    Prod.ext (shape.unset_unique unset.1 unset'.1) (rest.unset_unique unset.2 unset'.2)

end

namespace Fields

/-- A field that may be missing is unset then. -/
def DefaultsUnset {β σ : Type} : Fields σ β → Prop
  | .nil => True
  | .cons _ none _ rest => rest.DefaultsUnset
  | .cons _ (some value) shape rest => shape.Unset value ∧ rest.DefaultsUnset

theorem DefaultsUnset.rest {name : String} {fallback : Option α} {shape : Shape α}
    {rest : Fields σ β} (defaults : (Fields.cons name fallback shape rest).DefaultsUnset) :
    rest.DefaultsUnset := by
  cases fallback with
  | none => exact defaults
  | some _ => exact defaults.2

/-- The names of the fields that have to be present, in order. -/
def mandatory {β σ : Type} : Fields σ β → List String
  | .nil => []
  | .cons name fallback _ rest => if fallback.isNone then name :: rest.mandatory else rest.mandatory

/-- The fields have the given keys in this order. Those at the front have to be present, and the
others are unset when they are missing. -/
structure Keyed (fields : Fields σ β) (needed spare : List String) : Prop where
  names : fields.names = needed ++ spare
  mandatory : fields.mandatory = needed
  defaults : fields.DefaultsUnset

theorem mandatory_rest {name other : String} {fallback : Option α} {shape : Shape α}
    {rest : Fields σ β} (needed : other ∈ rest.mandatory) :
    other ∈ (Fields.cons name fallback shape rest).mandatory := by
  rw [mandatory]
  split
  · exact List.mem_cons_of_mem _ needed
  · exact needed

theorem distinct_rest {name : String} {fallback : Option α} {shape : Shape α} {rest : Fields σ β}
    (unambiguous : (Fields.cons name fallback shape rest).isUnambiguous = true) :
    name ∉ rest.names ∧ rest.isUnambiguous = true := by
  simp only [isUnambiguous, Bool.and_eq_true, Bool.not_eq_true', List.contains_eq_mem,
    decide_eq_false_iff_not] at unambiguous
  exact ⟨unambiguous.1.1, unambiguous.2⟩

/-- No field occurs twice among the keys. Keys that name no field may. -/
def Unrepeated (fields : Fields σ β) (keys : List String) : Prop :=
  ∀ name ∈ fields.names, keys.count name ≤ 1

theorem Unrepeated.rest {name : String} {fallback : Option α} {shape : Shape α}
    {rest : Fields σ β} {keys : List String}
    (unrepeated : (Fields.cons name fallback shape rest).Unrepeated keys) : rest.Unrepeated keys := by
  intro other known
  exact unrepeated other (List.mem_cons_of_mem _ known)

end Fields

theorem not_mem_of_count {key : String} {passed later : List String}
    (once : (passed ++ key :: later).count key ≤ 1) : key ∉ passed := by
  intro member
  have positive := List.count_pos_iff.mpr member
  rw [List.count_append, List.count_cons_self] at once
  omega

/-- The keys of every record. -/
theorem records_keyed : EveryRecord fun α _ needed spare =>
    (shape (α := α)).Record fun fields _ => fields.Keyed needed spare := by
  constructor
  all_goals
    refine show Fields.Keyed _ _ _ from ?_
    refine ⟨rfl, rfl, ?_⟩
    repeat constructor

theorem every_record : EveryRecord fun α _ _ _ => (shape (α := α)).Record fun _ _ => True :=
  records_keyed.imp fun _ _ _ _ record => record.imp fun _ _ _ _ _ => trivial

theorem unambiguous_of_shape [Wire α] {title : String} {fields : Fields σ β} {iso : Iso β α}
    (same : shape = .record title fields iso) : fields.isUnambiguous = true := by
  have whole := Wire.unambiguous (α := α)
  rwa [same, Shape.isUnambiguous] at whole

/-- A query is absent if its reply cannot be read. -/
theorem read_of_fault [Wire α] {text : Bytes} {fault : Fault}
    (refused : decode (α := α) text = .error fault) :
    QueryResult.read (α := α) (.ok text) = .absent ⟨.decode, fault.message⟩ := by
  have same : QueryResult.read (α := α) (.ok text) =
      .ofExcept ((decode text).mapError QueryFailure.ofFault) := rfl
  rw [same, refused]
  rfl

end SwapDesk.Wire
