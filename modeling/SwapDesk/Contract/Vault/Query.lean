import SwapDesk.Contract.PoolKind

/-! Questions to the vault contract. -/

namespace SwapDesk.Vault

inductive Query where
  | config
  | registry (kind : PoolKind)
  | poolById (poolId : Amount)
  | poolByAddress (address : String)

def Query.name : Query → String
  | .config => "config"
  | .registry _ => "query_registry"
  | .poolById _ => "get_pool_by_id"
  | .poolByAddress _ => "get_pool_by_address"

instance : Wire Query where
  shape := .choice
    (.record "Config" "config" .nil <|
     .record "QueryRegistry" "query_registry" (.required "pool_type" Wire.shape .nil) <|
     .record "GetPoolById" "get_pool_by_id" (.required "pool_id" .amount .nil) <|
     .record "GetPoolByAddress" "get_pool_by_address" (.required "pool_addr" .text .nil) .nil)
    { ofParts := fun
        | .inl () => .config
        | .inr (.inl (kind, ())) => .registry kind
        | .inr (.inr (.inl (poolId, ()))) => .poolById poolId
        | .inr (.inr (.inr (.inl (address, ())))) => .poolByAddress address
      parts := fun
        | .config => .inl ()
        | .registry kind => .inr (.inl (kind, ()))
        | .poolById poolId => .inr (.inr (.inl (poolId, ())))
        | .poolByAddress address => .inr (.inr (.inr (.inl (address, ()))))
      parts_ofParts := by rintro (_ | _ | _ | _ | ⟨⟨⟩⟩) <;> rfl
      ofParts_parts := by rintro (_ | _ | _ | _) <;> rfl }

end SwapDesk.Vault
