import Mathlib.Data.List.Nodup
import SwapDesk.Registry.Testnet

/-! What the symbols of contracts stand for. The endings of symbols differ from each other, and
the symbol of the vault has none of them. No symbol is taken for another contract than its own,
whatever the labels of pools look like. -/

namespace SwapDesk.Registry.Network

/-- The pool is the first in the order of names whose label gives the symbol with the ending. -/
structure FirstWith (network : Network) (ending symbol : String) (pool : Descriptor) : Prop where
  spelled : symbol = pool.label ++ ending
  first : ∃ name, (name, pool) ∈ network.pools ∧ ∀ earlier other,
    (earlier, other) ∈ network.pools → earlier < name → symbol ≠ other.label ++ ending

/-- What a symbol stands for. -/
inductive Resolved (network : Network) (symbol : String) : Except Fault String → Prop where
  | vault (named : symbol = "vault_contract_address") : Resolved network symbol (.ok network.vault)
  | pool {pool : Descriptor} (first : network.FirstWith "_pool_addr" symbol pool) :
      Resolved network symbol (.ok pool.address)
  | lpToken {pool : Descriptor} (first : network.FirstWith "_lp_token_addr" symbol pool) :
      Resolved network symbol (.ok pool.lpToken)
  | unknown (other : symbol ≠ "vault_contract_address")
      (unspelled : ∀ name pool, (name, pool) ∈ network.pools →
        symbol ≠ pool.label ++ "_pool_addr" ∧ symbol ≠ pool.label ++ "_lp_token_addr") :
      Resolved network symbol (.error (.unknownContract network.name symbol))

theorem stem?_eq_some_iff {ending symbol label : String} :
    stem? ending symbol = some label ↔ symbol = label ++ ending := by
  unfold stem?
  rw [Option.map_eq_some_iff]
  constructor
  · rintro ⟨front, found, rfl⟩
    rw [List.isSuffixOf?_eq_some_iff_append_eq] at found
    rw [← String.toList_inj, String.toList_append, String.toList_ofList, found]
  · rintro rfl
    refine ⟨label.toList, ?_, String.ofList_toList⟩
    rw [List.isSuffixOf?_eq_some_iff_append_eq, String.toList_append]

private theorem take_reverse_append {front ending : String} {count : Nat}
    (within : count ≤ ending.length) :
    (front ++ ending).toList.reverse.take count = ending.toList.reverse.take count := by
  rw [String.toList_append, List.reverse_append, List.take_append_of_le_length]
  rw [List.length_reverse, String.length_toList]
  exact within

/-- Texts that end differently are different, whatever they begin with. -/
private theorem append_ne {front front' ending ending' : String} (count : Nat)
    (within : count ≤ ending.length) (within' : count ≤ ending'.length)
    (apart : ending.toList.reverse.take count ≠ ending'.toList.reverse.take count) :
    front ++ ending ≠ front' ++ ending' := by
  intro same
  apply apart
  rw [← take_reverse_append within, same, take_reverse_append within']

/-- The two endings part at the sixth character from the right. -/
theorem append_poolEnding_ne (label other : String) : label ++ poolEnding ≠ other ++ lpTokenEnding :=
  append_ne 6 (by decide) (by decide) (by decide)

theorem append_poolEnding_ne_vault (label : String) : label ++ poolEnding ≠ vaultSymbol := by
  have apart : label ++ poolEnding ≠ "" ++ vaultSymbol :=
    append_ne 1 (by decide) (by decide) (by decide)
  rwa [String.empty_append] at apart

theorem append_lpTokenEnding_ne_vault (label : String) : label ++ lpTokenEnding ≠ vaultSymbol := by
  have apart : label ++ lpTokenEnding ≠ "" ++ vaultSymbol :=
    append_ne 1 (by decide) (by decide) (by decide)
  rwa [String.empty_append] at apart

variable {network : Network} {symbol : String}

theorem addressIn_pool (pool : Descriptor) :
    addressIn (pool.label ++ poolEnding) pool = some pool.address :=
  if_pos (stem?_eq_some_iff.mpr rfl)

theorem addressIn_lpToken (pool : Descriptor) :
    addressIn (pool.label ++ lpTokenEnding) pool = some pool.lpToken := by
  have noPool : stem? poolEnding (pool.label ++ lpTokenEnding) ≠ some pool.label := by
    rw [Ne, stem?_eq_some_iff]
    exact (append_poolEnding_ne _ _).symm
  rw [addressIn, if_neg noPool, if_pos (stem?_eq_some_iff.mpr rfl)]

theorem addressIn_eq_none_iff {pool : Descriptor} : addressIn symbol pool = none ↔
    symbol ≠ pool.label ++ poolEnding ∧ symbol ≠ pool.label ++ lpTokenEnding := by
  unfold addressIn
  simp only [stem?_eq_some_iff]
  split
  next isPool => exact iff_of_false nofun fun apart => apart.1 isPool
  next noPool =>
    split
    next isToken => exact iff_of_false nofun fun apart => apart.2 isToken
    next noToken => exact iff_of_true rfl ⟨noPool, noToken⟩

/-- The pools with smaller names are the ones that come earlier. -/
theorem mem_before_iff {name : String} {pool : Descriptor} {before after : List (String × Descriptor)}
    (split : network.pools = before ++ (name, pool) :: after) {entry : String × Descriptor}
    (member : entry ∈ network.pools) : entry ∈ before ↔ entry.1 < name := by
  have sorted := network.sorted
  rw [split, List.map_append, List.map_cons, List.pairwise_append, List.pairwise_cons] at sorted
  obtain ⟨_, ⟨larger, _⟩, smaller⟩ := sorted
  constructor
  · intro earlier
    exact smaller entry.1 (List.mem_map_of_mem earlier) name List.mem_cons_self
  · intro below
    rw [split, List.mem_append, List.mem_cons] at member
    rcases member with earlier | rfl | later
    · exact earlier
    · exact absurd below (String.lt_irrefl _)
    · exact absurd (larger entry.1 (List.mem_map_of_mem later)) (String.lt_asymm below)

theorem contractAddress_unknown (other : symbol ≠ vaultSymbol)
    (missed : ∀ entry ∈ network.pools, addressIn symbol entry.2 = none) :
    network.contractAddress symbol = .error (.unknownContract network.name symbol) := by
  have nowhere : (network.pools.findSome? fun entry => addressIn symbol entry.2) = none :=
    List.findSome?_eq_none_iff.mpr missed
  rw [contractAddress, if_neg other, nowhere]

theorem contractAddress_found {address name : String} {pool : Descriptor}
    (other : symbol ≠ vaultSymbol) (member : (name, pool) ∈ network.pools)
    (here : addressIn symbol pool = some address)
    (missed : ∀ entry ∈ network.pools, entry.1 < name → addressIn symbol entry.2 = none) :
    network.contractAddress symbol = .ok address := by
  obtain ⟨before, after, split⟩ := List.append_of_mem member
  have found : (network.pools.findSome? fun entry => addressIn symbol entry.2) = some address := by
    rw [List.findSome?_eq_some_iff]
    refine ⟨before, (name, pool), after, split, here, ?_⟩
    intro entry earlier
    have inside : entry ∈ network.pools := by
      rw [split]
      exact List.mem_append_left _ earlier
    exact missed entry inside ((mem_before_iff split inside).mp earlier)
  rw [contractAddress, if_neg other, found]

theorem Resolved.contractAddress {outcome : Except Fault String}
    (resolved : Resolved network symbol outcome) : network.contractAddress symbol = outcome := by
  cases resolved with
  | vault named => exact if_pos named
  | @pool pool first =>
    obtain ⟨rfl, name, member, earlier⟩ := first
    refine contractAddress_found (append_poolEnding_ne_vault _) member (addressIn_pool pool) ?_
    intro entry inside smaller
    exact addressIn_eq_none_iff.mpr
      ⟨earlier entry.1 entry.2 inside smaller, append_poolEnding_ne _ _⟩
  | @lpToken pool first =>
    obtain ⟨rfl, name, member, earlier⟩ := first
    refine contractAddress_found (append_lpTokenEnding_ne_vault _) member (addressIn_lpToken pool) ?_
    intro entry inside smaller
    exact addressIn_eq_none_iff.mpr
      ⟨(append_poolEnding_ne _ _).symm, earlier entry.1 entry.2 inside smaller⟩
  | unknown other unspelled =>
    apply contractAddress_unknown other
    intro entry inside
    exact addressIn_eq_none_iff.mpr (unspelled entry.1 entry.2 inside)

theorem exists_resolved (network : Network) (symbol : String) :
    ∃ outcome, Resolved network symbol outcome := by
  by_cases named : symbol = "vault_contract_address"
  · exact ⟨_, .vault named⟩
  cases found : network.pools.findSome? fun entry => addressIn symbol entry.2 with
  | none =>
    refine ⟨_, .unknown named ?_⟩
    intro name pool member
    exact addressIn_eq_none_iff.mp (List.findSome?_eq_none_iff.mp found (name, pool) member)
  | some address =>
    obtain ⟨before, ⟨name, pool⟩, after, split, here, missed⟩ := List.findSome?_eq_some_iff.mp found
    have member : (name, pool) ∈ network.pools := by
      rw [split]
      exact List.mem_append_right before List.mem_cons_self
    have earlier : ∀ entry ∈ network.pools, entry.1 < name →
        symbol ≠ entry.2.label ++ poolEnding ∧ symbol ≠ entry.2.label ++ lpTokenEnding := by
      intro entry inside smaller
      exact addressIn_eq_none_iff.mp (missed entry ((mem_before_iff split inside).mpr smaller))
    by_cases isPool : symbol = pool.label ++ poolEnding
    · exact ⟨_, .pool ⟨isPool, name, member, fun early other inside smaller =>
        (earlier (early, other) inside smaller).1⟩⟩
    by_cases isToken : symbol = pool.label ++ lpTokenEnding
    · exact ⟨_, .lpToken ⟨isToken, name, member, fun early other inside smaller =>
        (earlier (early, other) inside smaller).2⟩⟩
    have nowhere : addressIn symbol pool = none := addressIn_eq_none_iff.mpr ⟨isPool, isToken⟩
    have here : addressIn symbol pool = some address := here
    rw [nowhere] at here
    cases here

theorem contractAddress_eq_iff {outcome : Except Fault String} :
    network.contractAddress symbol = outcome ↔ Resolved network symbol outcome := by
  constructor
  · rintro rfl
    obtain ⟨outcome, resolved⟩ := exists_resolved network symbol
    rw [resolved.contractAddress]
    exact resolved
  · exact Resolved.contractAddress

/-- No two pools have the same label. -/
def Distinct (network : Network) : Prop := (network.pools.map fun entry => entry.2.label).Nodup

/-- Where labels are distinct, a pool is the first with its own symbols. -/
theorem Distinct.firstWith (distinct : network.Distinct) {name : String} {pool : Descriptor}
    (member : (name, pool) ∈ network.pools) (ending : String) :
    network.FirstWith ending (pool.label ++ ending) pool := by
  refine ⟨rfl, name, member, ?_⟩
  intro earlier other inside smaller same
  have alike : pool.label = other.label := (String.append_left_inj ending).mp same
  have same : (name, pool) = (earlier, other) := List.inj_on_of_nodup_map distinct member inside alike
  cases same
  exact String.lt_irrefl _ smaller

instance (network : Network) : Decidable network.Distinct := inferInstanceAs (Decidable (List.Nodup _))

example : Testnet.network.Distinct := by decide

/-- An ending that nothing stands before is no pool's symbol. -/
theorem bare_ne_append {label : String} (ending : String) (labelled : label ≠ "") :
    ending ≠ label ++ ending := by
  intro same
  apply labelled
  rw [← String.append_left_inj ending, String.empty_append]
  exact same.symm

theorem bare_poolEnding (network : Network) :
    Resolved network poolEnding (.error (.unknownContract network.name poolEnding)) := by
  refine .unknown (by decide) ?_
  intro name pool _
  have apart := append_poolEnding_ne "" pool.label
  rw [String.empty_append] at apart
  exact ⟨bare_ne_append poolEnding pool.labelled, apart⟩

theorem bare_lpTokenEnding (network : Network) :
    Resolved network lpTokenEnding (.error (.unknownContract network.name lpTokenEnding)) := by
  refine .unknown (by decide) ?_
  intro name pool _
  have apart := append_poolEnding_ne pool.label ""
  rw [String.empty_append] at apart
  exact ⟨apart.symm, bare_ne_append lpTokenEnding pool.labelled⟩

/-- The address of the vault is no pool's and no LP token's. -/
def VaultApart (network : Network) : Prop :=
  ∀ entry ∈ network.pools, entry.2.address ≠ network.vault ∧ entry.2.lpToken ≠ network.vault

instance (network : Network) : Decidable network.VaultApart :=
  inferInstanceAs (Decidable (∀ entry ∈ network.pools, _))

example : Testnet.network.VaultApart := by decide

theorem Resolved.named_vault (apart : network.VaultApart)
    (resolved : Resolved network symbol (.ok network.vault)) : symbol = vaultSymbol := by
  generalize outcome : Except.ok network.vault = found at resolved
  cases resolved with
  | vault named => exact named
  | pool first =>
    obtain ⟨_, name, member, _⟩ := first
    exact absurd (Except.ok.inj outcome).symm (apart (name, _) member).1
  | lpToken first =>
    obtain ⟨_, name, member, _⟩ := first
    exact absurd (Except.ok.inj outcome).symm (apart (name, _) member).2
  | unknown => cases outcome

/-- How a network resolves symbols. -/
structure Resolves (network : Network) : Prop where
  exactly : ∀ symbol outcome,
    network.contractAddress symbol = outcome ↔ Resolved network symbol outcome
  vault : network.VaultApart → ∀ symbol,
    network.contractAddress symbol = .ok network.vault ↔ symbol = "vault_contract_address"
  bare : ∀ ending ∈ ["_pool_addr", "_lp_token_addr"],
    network.contractAddress ending = .error (.unknownContract network.name ending)
  own : network.Distinct → ∀ name pool, (name, pool) ∈ network.pools →
    network.contractAddress (pool.label ++ "_pool_addr") = .ok pool.address ∧
    network.contractAddress (pool.label ++ "_lp_token_addr") = .ok pool.lpToken

theorem symbols_resolve_exactly (network : Network) : Resolves network where
  exactly _ _ := contractAddress_eq_iff
  vault apart symbol := by
    rw [contractAddress_eq_iff]
    exact ⟨fun resolved => resolved.named_vault apart, .vault⟩
  bare ending either := by
    rw [contractAddress_eq_iff]
    rcases List.mem_pair.mp either with rfl | rfl
    · exact bare_poolEnding network
    · exact bare_lpTokenEnding network
  own distinct name pool member := by
    rw [contractAddress_eq_iff, contractAddress_eq_iff]
    exact ⟨.pool (distinct.firstWith member _), .lpToken (distinct.firstWith member _)⟩

end SwapDesk.Registry.Network
