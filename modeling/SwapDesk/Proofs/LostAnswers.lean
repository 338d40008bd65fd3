import SwapDesk.Proofs.SweepItinerary
import SwapDesk.Registry.Testnet
import SwapDesk.Rehearsal.Desk

/-! Answers that the log of a sweep passes over. There are as many findings as questions unless a
pool did not say its number. -/

namespace SwapDesk

namespace Probe

open Desk (Request answers)

/-- A pool was asked for its number and did not say it. -/
inductive Lost : Stop × Except QueryFailure Bytes → Prop where
  | lost {pool : String} {configured : UInt64} {request : Request}
      {answer : Except QueryFailure Bytes} {failure : QueryFailure}
      (read : Reading (α := Amount) answer (.absent failure)) :
      Lost (.number pool configured request, answer)

private theorem not_lost {pool : String} {configured : UInt64} {request : Request}
    {answer : Except QueryFailure Bytes} {id : Amount} (read : Reading answer (.response id)) :
    ¬ Lost (.number pool configured request, answer) := by
  rintro ⟨absent⟩
  cases read with
  | understood decoded =>
    cases absent with
    | garbled refused =>
      rw [decoded] at refused
      cases refused

theorem Finding.lost_or_told {stop : Stop} {answer : Except QueryFailure Bytes}
    {events : List Event} (finding : Finding stop answer events) :
    Lost (stop, answer) ∧ events = [] ∨ ¬ Lost (stop, answer) ∧ events.length = 1 := by
  cases finding with
  | answered read _ => exact .inr ⟨nofun, rfl⟩
  | unanswered read _ => exact .inr ⟨nofun, rfl⟩
  | matching read _ _ => exact .inr ⟨not_lost read, rfl⟩
  | differing read _ _ => exact .inr ⟨not_lost read, rfl⟩
  | unsaid read => exact .inl ⟨.lost read, rfl⟩

theorem Findings.length_le {stops : List Stop} {answers : List (Except QueryFailure Bytes)}
    {events : List Event} (recorded : Findings stops answers events) :
    events.length ≤ stops.length := by
  induction recorded with
  | none => exact Nat.le_refl 0
  | next finding _ ih =>
    rw [List.length_append, List.length_cons]
    rcases finding.lost_or_told with ⟨_, empty⟩ | ⟨_, single⟩
    · rw [empty, List.length_nil]
      omega
    · omega

/-- As many findings as stops means that no answer was lost. -/
theorem Findings.complete_iff {stops : List Stop} {answers : List (Except QueryFailure Bytes)}
    {events : List Event} (recorded : Findings stops answers events) :
    events.length = stops.length ↔ ∀ pair ∈ stops.zip answers, ¬ Lost pair := by
  induction recorded with
  | none => exact iff_of_true rfl nofun
  | next finding rest ih =>
    have bound := rest.length_le
    rw [List.zip_cons_cons, List.forall_mem_cons, List.length_append, List.length_cons, ← ih]
    rcases finding.lost_or_told with ⟨lost, empty⟩ | ⟨kept, single⟩
    · rw [empty, List.length_nil]
      refine iff_of_false (by omega) ?_
      exact fun complete => complete.1 lost
    · rw [single]
      constructor
      · intro complete
        exact ⟨kept, by omega⟩
      · rintro ⟨_, complete⟩
        omega

/-- The questions of a sweep are answered for one by one and in order. There are as many findings
as questions unless a pool did not say its number, and such a pool has none for that question. -/
theorem findings_follow_answers {ν ω : Type} [ChainAccess ν] [Wallet ω]
    (network : Registry.Network) (wallet : ω) (log : List Event) (chain : ν) :
    let asked := stops network (Wallet.address wallet)
    let swept : Desk (WatchedChain ν) (WatchedWallet ω) :=
      ((sweep network).run { chain := { inner := chain }, wallet := { inner := wallet }, log }).2
    let heard := swept.chain.queries.map Asked.answer
    asked.length = 1 + 6 * network.pools.length + network.testTokens.length ∧
    swept.chain.queries.map Asked.sent = asked.map (fun stop => stop.request.sent) ∧
    ∃ told, swept.log = log ++ told ∧ Findings asked heard (findings told) ∧
      ((findings told).length = asked.length ↔ ∀ pair ∈ asked.zip heard, ¬ Lost pair) := by
  intro asked swept heard
  have requests : asked.map Stop.request = itinerary network (Wallet.address wallet) :=
    stops_requests network _
  obtain ⟨_, queries, _, _⟩ := sweep_watched network wallet log chain
  let watched : WatchedChain ν := { inner := chain }
  obtain ⟨told, reached, found⟩ := recounts_sweep (ω := WatchedWallet ω) network watched log
  have answered : heard = answers (asked.map Stop.request) watched :=
    (congrArg (fun desk => desk.chain.queries.map Asked.answer) reached).trans
      (Desk.poll_answers (asked.map Stop.request) watched)
  refine ⟨?_, ?_, told, congrArg (fun desk => desk.log) reached, ?_, ?_⟩
  · rw [← length_itinerary network (Wallet.address wallet), ← requests, List.length_map]
  · have each : (asked.map Stop.request).map Request.sent =
        asked.map fun stop => stop.request.sent := List.map_map
    rw [← each, requests]
    exact queries
  · rw [answered]
    exact found
  · rw [answered]
    exact found.complete_iff

/-- A node that refuses every question: each of the seven pools is asked for its number, and no
finding is about the number of a pool. -/
theorem refused_numbers_go_unmentioned :
    let swept := ((sweep Registry.Testnet.network).run
      (Rehearsal.MemoryDesk.start {} { address := "persistence1wallet" })).2
    swept.chain.queries.length = 47 ∧ (findings swept.log).length = 40 ∧
      ∀ event ∈ findings swept.log, "pool" ∉ event.fields.map Prod.fst := by
  decide +kernel

end Probe

end SwapDesk
