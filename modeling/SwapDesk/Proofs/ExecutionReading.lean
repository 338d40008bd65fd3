import Mathlib.Algebra.Group.Nat.Defs
import SwapDesk.Protobuf.Reader
import SwapDesk.Proofs.StatefulErrors
import SwapDesk.Proofs.TextBytes
import SwapDesk.Tx.Body

/-! Executions read back from their bytes. A field that was written is taken in whole and leaves
what stands behind it, so a message is read field by field. -/

namespace SwapDesk.Protobuf

variable {α β σ : Type}

/-- The reader takes what was written for the value and nothing of what follows. -/
def Reads (reader : Reader α) (written : Bytes) (value : α) : Prop :=
  ∀ rest, ∃ read, reader (written ++ rest) = .ok read ∧ read.value = value ∧ read.rest = rest

private theorem last_group_reads {count value : Nat} (small : value < 128)
    (fits : value < 2 * 128 ^ count) : Reads (varintWithin count) [UInt8.ofNat value] value := by
  intro rest
  have byte : (UInt8.ofNat value).toNat = value := by
    rw [UInt8.toNat_ofNat']
    omega
  rw [List.singleton_append]
  cases count with
  | zero =>
    rw [varintWithin, if_pos (by omega)]
    exact ⟨_, rfl, byte, rfl⟩
  | succ count =>
    rw [varintWithin, if_pos (by omega)]
    exact ⟨_, rfl, byte, rfl⟩

theorem varintWithin_reads {count value : Nat} (fits : value < 2 * 128 ^ count) :
    Reads (varintWithin count) (varint value) value := by
  induction count generalizing value with
  | zero =>
    rw [varint, if_pos (by omega)]
    exact last_group_reads (by omega) fits
  | succ count ih =>
    rw [varint]
    by_cases small : value < 128
    case pos =>
      rw [if_pos small]
      exact last_group_reads small fits
    intro rest
    have byte : (UInt8.ofNat (value % 128 + 128)).toNat = value % 128 + 128 := by
      rw [UInt8.toNat_ofNat']
      omega
    have high : value / 128 < 2 * 128 ^ count := by
      rw [Nat.pow_succ] at fits
      omega
    obtain ⟨read, taken, whole, left⟩ := ih high rest
    rw [if_neg small, List.cons_append, varintWithin, if_neg (by omega), taken, ok_bind]
    refine ⟨_, rfl, ?_, left⟩
    dsimp only
    rw [whole, byte]
    omega

theorem readVarint_reads {value : Nat} (fits : value < 2 ^ 64) :
    Reads readVarint (varint value) value := by
  -- Nine groups have seven bits each, and the tenth has one.
  have fits : value < 2 * 128 ^ 9 := by omega
  exact varintWithin_reads fits

theorem readKey_reads {field kind : Nat} (named : field ≠ 0) (known : kind ≤ 5)
    (fits : 8 * field + kind < 2 ^ 32) : Reads readKey (tag field kind) (field, kind) := by
  intro rest
  have short : 8 * field + kind < 2 ^ 64 := by omega
  obtain ⟨read, taken, whole, left⟩ := readVarint_reads short rest
  rw [readKey, tag, taken, ok_bind, whole, if_neg (by omega), if_neg (by omega), if_neg (by omega)]
  refine ⟨_, rfl, ?_, left⟩
  rw [Read.map, whole]
  exact Prod.ext (by dsimp only; omega) (by dsimp only; omega)

theorem readBytes_reads {content : Bytes} (fits : content.length < 2 ^ 64) :
    Reads (readBytes 2) (varint content.length ++ content) content := by
  intro rest
  obtain ⟨read, taken, whole, left⟩ := readVarint_reads fits (content ++ rest)
  have within : ¬ read.rest.length < read.value := by
    rw [left, whole, List.length_append]
    omega
  rw [List.append_assoc]
  change ∃ read, (readVarint _ >>= _) = _ ∧ _
  rw [taken, ok_bind, if_neg within]
  refine ⟨_, rfl, ?_, ?_⟩
  · dsimp only
    rw [whole, left, List.take_left]
  · dsimp only
    rw [whole, left, List.drop_left]

theorem readText_reads {text : String} (fits : (Text.bytes text).length < 2 ^ 64) :
    Reads (readText 2) (varint (Text.bytes text).length ++ Text.bytes text) text := by
  intro rest
  obtain ⟨read, taken, whole, left⟩ := readBytes_reads fits rest
  rw [readText, taken, ok_bind, whole, Text.ofBytes?_bytes]
  exact ⟨_, rfl, rfl, left⟩

theorem Reads.then {reader : Reader α} {written : Bytes} {value : α}
    (reads : Reads reader written value) (change : Fault → Fault) (next : α → σ) :
    Reads (fun input => do
      let read ← (reader input).mapError change
      pure (read.map next)) written (next value) := by
  intro rest
  obtain ⟨read, taken, whole, left⟩ := reads rest
  refine ⟨read.map next, ?_, congrArg next whole, left⟩
  dsimp only
  rw [taken]
  rfl

variable {merge : Merge σ} {state state' : σ}

/-- What was written for some fields changes the state of a message in a given way, whatever
fields follow. -/
def Absorbs (merge : Merge σ) (written : Bytes) (state state' : σ) : Prop :=
  ∀ rest, decode merge state (written ++ rest) = decode merge state' rest

theorem absorbs_nothing : Absorbs merge [] state state := fun _ => rfl

theorem Absorbs.append {first second : Bytes} {middle : σ}
    (before : Absorbs merge first state middle) (after : Absorbs merge second middle state') :
    Absorbs merge (first ++ second) state state' := by
  intro rest
  rw [List.append_assoc, before, after]

theorem Absorbs.decode {written : Bytes} (absorbs : Absorbs merge written state state') :
    decode merge state written = .ok state' := by
  have read := absorbs []
  rw [List.append_nil] at read
  rw [read, Protobuf.decode, mergeUntil]
  rfl

theorem decode_field {input : Bytes} {key : Read (Nat × Nat) input} {next : Read σ key.rest}
    (keyed : readKey input = .ok key)
    (merged : merge key.value.1 key.value.2 state key.rest = .ok next) :
    decode merge state input = decode merge next.value next.rest := by
  have nonempty : ¬ input.length ≤ 0 := by
    have shorter := key.shorter
    omega
  rw [decode, mergeUntil, if_neg nonempty, keyed, ok_bind, merged, ok_bind, decode]
  cases mergeUntil merge 0 next.value next.rest with
  | error fault => rfl
  | ok result => rfl

/-- A field of a message is absorbed as its content is merged. -/
theorem absorbs_message {field : Nat} {content : Bytes} (named : field ≠ 0)
    (fits : 8 * field + 2 < 2 ^ 32)
    (merges : Reads (merge field 2 state) (varint content.length ++ content) state') :
    Absorbs merge (message field content) state state' := by
  intro rest
  obtain ⟨key, keyed, number, behind⟩ :=
    readKey_reads named (by decide) fits (varint content.length ++ content ++ rest)
  have absorbed := merges rest
  rw [← behind] at absorbed
  obtain ⟨next, merged, reached, left⟩ := absorbed
  have taken : merge key.value.1 key.value.2 state key.rest = .ok next := by rw [number, merged]
  rw [message, List.append_assoc, List.append_assoc, ← List.append_assoc (varint _),
    decode_field keyed taken, reached, left]

/-- A field that is left out when empty is absorbed if its absence says the same. -/
theorem absorbs_bytes {field : Nat} {content : Bytes} (named : field ≠ 0)
    (fits : 8 * field + 2 < 2 ^ 32) (unset : content = [] → state = state')
    (merges : Reads (merge field 2 state) (varint content.length ++ content) state') :
    Absorbs merge (bytes field content) state state' := by
  cases content with
  | nil =>
    rw [unset rfl]
    exact absorbs_nothing
  | cons first others => exact absorbs_message named fits merges

end SwapDesk.Protobuf

namespace SwapDesk.Tx

open Protobuf (Reads Absorbs Merge)

/-- An execution as it is read back. Its coins stay written. -/
structure Received where
  sender : String := ""
  contract : String := ""
  message : Bytes := []
  funds : List Bytes := []
  deriving DecidableEq

def Received.merge : Merge Received := fun field kind received input =>
  match field with
  | 1 => do
    let sender ← (Protobuf.readText kind input).mapError (·.inside "MsgExecuteContract" "sender")
    pure (sender.map fun sender => { received with sender })
  | 2 => do
    let contract ← (Protobuf.readText kind input).mapError
      (·.inside "MsgExecuteContract" "contract")
    pure (contract.map fun contract => { received with contract })
  | 3 => do
    let message ← (Protobuf.readBytes kind input).mapError (·.inside "MsgExecuteContract" "msg")
    pure (message.map fun message => { received with message })
  | 5 => do
    let coin ← (Protobuf.readBytes kind input).mapError (·.inside "MsgExecuteContract" "funds")
    pure (coin.map fun coin => { received with funds := received.funds ++ [coin] })
  | _ => do
    pure ((← Protobuf.skipField Protobuf.levels kind field input).map fun _ => received)

variable {execution : Execution}

private theorem absorbs_text {field : Nat} {text : String} {state state' : Received}
    (named : field ≠ 0) (small : 8 * field + 2 < 2 ^ 32) (unset : text = "" → state = state')
    (merges : Reads (Received.merge field 2 state)
      (Protobuf.varint (Text.bytes text).length ++ Text.bytes text) state') :
    Absorbs Received.merge (Protobuf.text field text) state state' :=
  Protobuf.absorbs_bytes named small (fun empty => unset (Text.bytes_injective empty)) merges

section
variable (fundless : execution.funds = [])
  (sender : (Text.bytes execution.sender).length < 2 ^ 64)
  (contract : (Text.bytes execution.contract).length < 2 ^ 64)
  (message : execution.message.length < 2 ^ 64)
include fundless sender contract message

theorem decode_execution : Protobuf.decode Received.merge {} execution.encode =
    .ok ⟨execution.sender, execution.contract, execution.message, []⟩ := by
  have first : Absorbs Received.merge (Protobuf.text 1 execution.sender) {}
      { sender := execution.sender } :=
    absorbs_text (by decide) (by decide) (fun empty => by rw [empty])
      ((Protobuf.readText_reads sender).then _ fun sender => ({ sender } : Received))
  have second : Absorbs Received.merge (Protobuf.text 2 execution.contract)
      { sender := execution.sender } ⟨execution.sender, execution.contract, [], []⟩ :=
    absorbs_text (by decide) (by decide) (fun empty => by rw [empty])
      ((Protobuf.readText_reads contract).then _ fun contract =>
        Received.mk execution.sender contract [] [])
  have third : Absorbs Received.merge (Protobuf.bytes 3 execution.message)
      ⟨execution.sender, execution.contract, [], []⟩
      ⟨execution.sender, execution.contract, execution.message, []⟩ :=
    Protobuf.absorbs_bytes (by decide) (by decide) (fun empty => by rw [empty])
      ((Protobuf.readBytes_reads message).then _ fun message =>
        Received.mk execution.sender execution.contract message [])
  rw [Execution.encode, fundless]
  exact (((first.append second).append third).append Protobuf.absorbs_nothing).decode

/-- An execution that travels as a typed message is read back as it was written. -/
theorem decode_typed :
    Protobuf.Typed.decode ⟨Execution.typeUrl, execution.encode⟩ Execution.typeUrl
        Received.merge {} =
      .ok ⟨execution.sender, execution.contract, execution.message, []⟩ := by
  have named : (Protobuf.typeName? Execution.typeUrl).isSome = true := by decide +kernel
  rw [Protobuf.Typed.decode, named, beq_self_eq_true, Bool.and_self, if_pos rfl]
  exact decode_execution fundless sender contract message

end

end SwapDesk.Tx
