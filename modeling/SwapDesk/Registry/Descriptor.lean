import SwapDesk.Contract.Asset
import SwapDesk.Contract.PoolKind

/-! Descriptions of deployed pools. Nothing in a description is empty. -/

namespace SwapDesk.Registry

inductive Fault where
  | unknownNetwork (name : String)
  | unknownPool (network pool : String)
  | unknownContract (network symbol : String)
  | emptyField (pool : UInt64) (field : String)
  | noAssets (pool : UInt64)
  | emptyNetworkField (network field : String)
  deriving DecidableEq

def Fault.message : Fault → String
  | .unknownNetwork name => "Network " ++ Text.quoted name ++ " is not configured!"
  | .unknownPool network pool =>
    "Pool " ++ Text.quoted pool ++ " is not configured for network " ++ Text.quoted network ++ "!"
  | .unknownContract network symbol =>
    "Contract " ++ Text.quoted symbol ++ " is not configured for network " ++
      Text.quoted network ++ "!"
  | .emptyField pool field =>
    "Pool with ID " ++ pool.toNat.repr ++ " has an empty " ++ field ++ "!"
  | .noAssets pool => "Pool with ID " ++ pool.toNat.repr ++ " lists no assets!"
  | .emptyNetworkField network field =>
    "Network " ++ Text.quoted network ++ " has an empty " ++ field ++ "!"

/-- A deployed pool. Its label names the family of contracts it belongs to and begins the
symbols of its contracts. -/
structure Descriptor where
  id : UInt64
  kind : PoolKind
  label : String
  address : String
  lpToken : String
  assets : List AssetInfo
  labelled : label ≠ "" := by decide
  addressed : address ≠ "" := by decide
  tokenised : lpToken ≠ "" := by decide
  stocked : assets ≠ [] := by decide
  named : ∀ asset ∈ assets, asset.label ≠ "" := by decide

namespace Descriptor

def make (id : UInt64) (kind : PoolKind) (label address lpToken : String)
    (assets : List AssetInfo) : Except Fault Descriptor :=
  if labelled : label = "" then .error (.emptyField id "label")
  else if addressed : address = "" then .error (.emptyField id "pool address")
  else if tokenised : lpToken = "" then .error (.emptyField id "LP-token address")
  else if stocked : assets = [] then .error (.noAssets id)
  else if named : ∀ asset ∈ assets, asset.label ≠ "" then
    .ok ⟨id, kind, label, address, lpToken, assets, labelled, addressed, tokenised, stocked, named⟩
  else .error (.emptyField id "asset")

def describe (pool : Descriptor) : String :=
  Text.describedRecord "PoolDescriptor"
    [("id", pool.id.toNat.repr), ("kind", Wire.describe pool.kind),
     ("label", Text.quoted pool.label), ("pool_address", Text.quoted pool.address),
     ("lp_token_address", Text.quoted pool.lpToken),
     ("assets", Text.described (pool.assets.map Wire.describe))]

end Descriptor

end SwapDesk.Registry
