import SwapDesk.Proofs.StatefulErrors
import SwapDesk.Signer

/-! The count that a signed transaction carries. Fields of protobuf can be told apart from what
stands behind them, so a transaction carries one count only. -/

namespace SwapDesk.Protobuf

private theorem ofNat_inj {first second : Nat} (small : first < 256) (small' : second < 256)
    (same : UInt8.ofNat first = UInt8.ofNat second) : first = second := by
  have codes := congrArg UInt8.toNat same
  simp only [UInt8.toNat_ofNat'] at codes
  omega

/-- A number ends with its first byte below 128, so what follows cannot be taken for it. -/
theorem varint_append_inj {value other : Nat} {rest rest' : Bytes}
    (same : varint value ++ rest = varint other ++ rest') : value = other ∧ rest = rest' := by
  induction value using Nat.strongRecOn generalizing other with
  | ind value ih =>
    rw [varint, varint.eq_1 other] at same
    by_cases small : value < 128
    · by_cases small' : other < 128
      · simp only [small, small', ite_true, List.cons_append, List.nil_append] at same
        obtain ⟨head, tail⟩ := List.cons.inj same
        exact ⟨ofNat_inj (by omega) (by omega) head, tail⟩
      · simp only [small, small', ite_true, ite_false, List.cons_append] at same
        have code := ofNat_inj (by omega) (by omega) (List.cons.inj same).1
        omega
    · by_cases small' : other < 128
      · simp only [small, small', ite_true, ite_false, List.cons_append] at same
        have code := ofNat_inj (by omega) (by omega) (List.cons.inj same).1
        omega
      · simp only [small, small', ite_false, List.cons_append] at same
        obtain ⟨head, tail⟩ := List.cons.inj same
        have low := ofNat_inj (by omega) (by omega) head
        obtain ⟨high, behind⟩ := ih (value / 128) (by omega) tail
        exact ⟨by omega, behind⟩

theorem message_append_inj {field : Nat} {content content' rest rest' : Bytes}
    (same : message field content ++ rest = message field content' ++ rest') :
    content = content' ∧ rest = rest' := by
  simp only [message, List.append_assoc] at same
  obtain ⟨length, behind⟩ := varint_append_inj (List.append_cancel_left same)
  exact List.append_inj behind length

theorem number_inj {field value other : Nat} (same : number field value = number field other) :
    value = other := by
  have nonempty (n : Nat) : tag field 0 ++ varint n ≠ [] := by
    rw [varint]
    split <;> simp
  simp only [number] at same
  by_cases zero : value = 0
  · by_cases zero' : other = 0
    · exact zero.trans zero'.symm
    · simp only [zero, zero', ite_true, ite_false] at same
      exact absurd same.symm (nonempty other)
  · by_cases zero' : other = 0
    · simp only [zero, zero', ite_true, ite_false] at same
      exact absurd same (nonempty value)
    · simp only [zero, zero', ite_false] at same
      have numbers := List.append_cancel_left same
      rw [← List.append_nil (varint value), ← List.append_nil (varint other)] at numbers
      exact (varint_append_inj numbers).1

end SwapDesk.Protobuf

namespace SwapDesk.Signer

/-- The signer signed a document with the given count for its own account on its own chain, and
the transaction is that document with the signature. -/
def Issued (signer : Signer) (count : Nat) (tx : Tx.Signed) : Prop :=
  ∃ (document : Tx.Document) (signature : Bytes),
    document.author.publicKey = (Account.PublicKey.secp256k1 signer.key.point).toTyped ∧
    document.author.sequence.toNat = count ∧
    document.chainId = signer.chainId.text ∧
    document.accountNumber = signer.accountNumber ∧
    Crypto.Ecdsa.sign? signer.key.secret document.encode = some signature ∧
    tx = ⟨document.body.encode, document.authInfo, [signature]⟩

/-- The count is part of the transaction, so no other count can be read from it. -/
theorem Issued.unique {signer : Signer} {count other : Nat} {tx : Tx.Signed}
    (issued : signer.Issued count tx) (issued' : signer.Issued other tx) : count = other := by
  obtain ⟨document, _, key, rfl, _, _, _, rfl⟩ := issued
  obtain ⟨document', _, key', rfl, _, _, _, same⟩ := issued'
  have authInfo : document.authInfo = document'.authInfo := congrArg Tx.Signed.authInfo same
  unfold Tx.Document.authInfo at authInfo
  have authors := (Protobuf.message_append_inj authInfo).1
  simp only [Tx.Author.encode, key, key', List.append_assoc] at authors
  have behindKey := List.append_cancel_left authors
  exact Protobuf.number_inj (List.append_cancel_left behindKey)

end SwapDesk.Signer
