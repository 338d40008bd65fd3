import SwapDesk.Proofs.DeskWork
import SwapDesk.Proofs.IssuedCounts

/-! The counts of a session. A step does nothing to the count, or it has the node take in one
transaction and moves the count on by one; the invariant `Counted` follows for whole sessions. -/

namespace SwapDesk

def Broadcast.isAccepted (broadcast : Broadcast) : Bool :=
  match broadcast.outcome with
  | .ok response => response.isAccepted
  | .error _ => false

def acceptances (broadcasts : List Broadcast) : Nat := broadcasts.countP Broadcast.isAccepted

namespace Signer

end Signer

namespace Desk

variable {ν α : Type}

abbrev CountingDesk (ν : Type) := Desk (WatchedChain ν) (WatchedWallet Signer)

def signedTxs (desk : CountingDesk ν) : List Tx.Signed :=
  desk.wallet.signings.filterMap fun signing => signing.outcome.toOption

/-- One transaction with the count of the moment was signed and broadcast. -/
structure Sends (before after : CountingDesk ν) (broadcast : Broadcast) : Prop where
  issued : before.wallet.inner.Issued before.wallet.inner.sequence.toNat broadcast.tx
  signed : signedTxs after = signedTxs before ++ [broadcast.tx]
  sent : after.chain.broadcasts = before.chain.broadcasts ++ [broadcast]

/-- Nothing was signed or sent, and the signer is as it was. -/
structure Still (before after : CountingDesk ν) : Prop where
  signed : signedTxs after = signedTxs before
  sent : after.chain.broadcasts = before.chain.broadcasts
  kept : after.wallet.inner = before.wallet.inner

/-- What an errand does to the count, and what it gives back. Only an execution sends anything; it
gives back why its body was not signed, or what came of its broadcast. Only an acceptance moves
the count. -/
inductive Moved (before : CountingDesk ν) :
    {α : Type} → Errand α → Except Overflow α × CountingDesk ν → Prop where
  | idle {α : Type} {errand : Errand α} {value : α} {after : CountingDesk ν}
      (asks : errand.isExecution = false) (still : Still before after) :
      Moved before errand (.ok value, after)
  | unsigned {errand : Errand (Except Trail Tx.Response)} {body : Tx.Body} {trail : Trail}
      {after : CountingDesk ν} (executes : errand.isExecution = true)
      (failed : after.wallet.signings =
        before.wallet.signings ++ [⟨body, executionFee, .error trail⟩])
      (still : Still before after) :
      Moved before errand (.ok (.error (trail.within "Failed to sign transaction!")), after)
  | refused {errand : Errand (Except Trail Tx.Response)} {broadcast : Broadcast}
      {after : CountingDesk ν} (executes : errand.isExecution = true)
      (sends : Sends before after broadcast) (refused : broadcast.isAccepted = false)
      (kept : after.wallet.inner = before.wallet.inner) :
      Moved before errand (.ok broadcast.outcome, after)
  | taken {errand : Errand (Except Trail Tx.Response)} {broadcast : Broadcast}
      {after : CountingDesk ν} (executes : errand.isExecution = true)
      (sends : Sends before after broadcast) (accepted : broadcast.isAccepted = true)
      (kept : after.wallet.inner =
        { before.wallet.inner with sequence := after.wallet.inner.sequence })
      (advanced : after.wallet.inner.sequence.toNat = before.wallet.inner.sequence.toNat + 1) :
      Moved before errand (.ok broadcast.outcome, after)
  | stopped {errand : Errand (Except Trail Tx.Response)} {overflow : Overflow}
      {broadcast : Broadcast} {after : CountingDesk ν} (executes : errand.isExecution = true)
      (sends : Sends before after broadcast) (accepted : broadcast.isAccepted = true)
      (full : before.wallet.inner.sequence.toNat = 2 ^ 64 - 1) :
      Moved before errand (.error overflow, after)

section
variable [ChainAccess ν]

end

/-- What has been signed and broadcast so far, counted from the signer at the beginning. -/
structure Ledger (signer : Signer) (desk : CountingDesk ν) : Prop where
  signed : signedTxs desk = desk.chain.broadcasts.map Broadcast.tx
  issued : ∀ before next after, desk.chain.broadcasts = before ++ next :: after →
    signer.Issued (signer.sequence.toNat + acceptances before) next.tx

/-- A desk that still counts. -/
structure Counted (signer : Signer) (desk : CountingDesk ν) : Prop extends Ledger signer desk where
  kept : desk.wallet.inner = { signer with sequence := desk.wallet.inner.sequence }
  count : desk.wallet.inner.sequence.toNat =
    signer.sequence.toNat + acceptances desk.chain.broadcasts

/-- A desk that stopped: the last transaction carried the last count and was taken in. -/
structure Exhausted (signer : Signer) (desk : CountingDesk ν) : Prop extends Ledger signer desk where
  full : ∃ before last, desk.chain.broadcasts = before ++ [last] ∧ last.isAccepted = true ∧
    signer.sequence.toNat + acceptances before = 2 ^ 64 - 1

theorem Ledger.send {signer : Signer} {desk after : CountingDesk ν} {broadcast : Broadcast}
    (counted : Counted signer desk) (sends : Sends desk after broadcast) : Ledger signer after := by
  refine ⟨?_, ?_⟩
  · rw [sends.signed, sends.sent, counted.signed, List.map_append]
    rfl
  · intro before next rest same
    rw [sends.sent] at same
    rcases List.eq_nil_or_concat rest with rfl | ⟨others, last, rfl⟩
    · obtain ⟨rfl, rest⟩ := List.append_inj' same rfl
      cases rest
      have issued := sends.issued
      rw [counted.kept] at issued
      rwa [counted.count] at issued
    · rw [List.concat_eq_append, ← List.cons_append, ← List.append_assoc] at same
      exact counted.issued before next others (List.append_inj' same rfl).1

private theorem acceptances_append (broadcasts : List Broadcast) (last : Broadcast) :
    acceptances (broadcasts ++ [last]) =
      acceptances broadcasts + if last.isAccepted then 1 else 0 := by
  simp [acceptances, List.countP_append, List.countP_cons]

/-- The invariant of a session. -/
def Standing (signer : Signer) : Except Overflow α × CountingDesk ν → Prop
  | (.ok _, desk) => Counted signer desk
  | (.error _, desk) => Exhausted signer desk

theorem Counted.still {signer : Signer} {desk after : CountingDesk ν}
    (counted : Counted signer desk) (still : Still desk after) : Counted signer after := by
  refine ⟨⟨?_, ?_⟩, ?_, ?_⟩
  · rw [still.signed, still.sent, counted.signed]
  · rw [still.sent]
    exact counted.issued
  · rw [still.kept]
    exact counted.kept
  · rw [still.kept, still.sent]
    exact counted.count

theorem Counted.step {signer : Signer} {desk : CountingDesk ν} {errand : Errand α}
    {result : Except Overflow α × CountingDesk ν} (counted : Counted signer desk)
    (moved : Moved desk errand result) : Standing signer result := by
  cases moved with
  | idle _ still => exact counted.still still
  | unsigned _ _ still => exact counted.still still
  | refused _ sends refused kept =>
    refine ⟨.send counted sends, ?_, ?_⟩
    · rw [kept]
      exact counted.kept
    · rw [kept, sends.sent, acceptances_append, refused]
      exact counted.count
  | taken _ sends accepted kept advanced =>
    refine ⟨.send counted sends, ?_, ?_⟩
    · rw [kept, counted.kept]
    · rw [advanced, sends.sent, acceptances_append, accepted, counted.count]
      rfl
  | stopped _ sends accepted full =>
    refine ⟨.send counted sends, _, _, sends.sent, accepted, ?_⟩
    rw [← counted.count]
    exact full

theorem Standing.counted {signer : Signer} {result : Except Overflow α × CountingDesk ν} {value : α}
    (standing : Standing signer result) (done : result.1 = .ok value) : Counted signer result.2 := by
  obtain ⟨outcome, desk⟩ := result
  cases done
  exact standing

end Desk

end SwapDesk
