import SwapDesk.Desk.Query
import SwapDesk.Proofs.RecordReading
import SwapDesk.Proofs.WireRoundTrip
import SwapDesk.Wire.Embedded

/-! Replies that were cut short or carry something more. No reply that can be read is the beginning
of another one, blanks at the end apart. -/

namespace SwapDesk.Wire

variable {α : Type}

/-- Every value can be read, and the texts that are read can be neither cut nor prolonged without
notice. -/
structure Unmistakable (α : Type) [Wire α] : Prop where
  readable : ∀ value : α, ∃ text, decode text = .ok value
  longer : ∀ (text more : Bytes) (value : α), decode text = .ok value →
    decode (text ++ more) = if more.all isBlank then .ok value else .error .trailingCharacters
  shorter : ∀ (kept lost : Bytes) (value : α), decode (kept ++ lost) = .ok value →
    lost.all isBlank = false → ∃ fault, decode (α := α) kept = .error fault
  /-- A message inside a payload that was cut short is not extracted. -/
  extracted : ∀ (kept lost : Bytes) (value : α), (Payload.mk (kept ++ lost)).extract = .ok value →
    lost.all isBlank = false → ∃ fault, (Payload.mk kept).extract (α := α) = .error (.unreadable fault)
  /-- A question that is answered with a text cut short has no response. -/
  asked : ∀ {ν ω μ : Type} [ChainAccess ν] [Wire μ] (desk : Desk ν ω) (contract operation : String)
    (message : μ) (kept lost : Bytes) (value : α),
    ((ChainAccess.smart contract (encode message)).run desk.chain).1 = .ok kept →
    decode (kept ++ lost) = .ok value → lost.all isBlank = false →
    ∃ reason, ((Desk.ask contract operation message).run desk).1 =
      QueryResult.absent (α := α) ⟨.decode, reason⟩

/-- What holds of every type that is read from JSON. -/
structure EveryType (law : (α : Type) → [Wire α] → Prop) : Prop
    extends EveryRecord fun α _ _ _ => law α where
  amount : law Amount
  decimal : law Decimal
  payload : law Payload
  assetInfo : law AssetInfo
  poolKind : law PoolKind
  swapSide : law SwapSide
  verdict : law Pool.Verdict
  expiration : law Expiration
  hook : law Vault.Hook

theorem readAll_append {reader : Reader α} (closes : reader.Closes) {text : Bytes} {value : α}
    (read : readAll reader text = .ok value) (more : Bytes) :
    readAll reader (text ++ more) =
      if more.all isBlank then .ok value else .error .trailingCharacters := by
  obtain ⟨rest, takes, blank⟩ := readAll_cases read
  obtain ⟨shorter, longer⟩ := closes.append takes more
  simp only [readAll, longer, ok_bind, List.all_append, blank, Bool.true_and]
  rfl

theorem decode_of_extract [Wire α] {payload : Payload} {value : α}
    (extracted : payload.extract = .ok value) : decode payload.bytes = .ok value := by
  unfold Payload.extract at extracted
  cases read : decode (α := α) payload.bytes with
  | error fault =>
    rw [read] at extracted
    cases extracted
  | ok other =>
    rw [read] at extracted
    cases extracted
    rfl

theorem unmistakable_of_ends [Wire α] (ends : ∀ more, (shape (α := α)).Ends more) :
    Unmistakable α := by
  have closes : ((shape (α := α)).reader room).Closes := by
    intro input rest value takes more _
    exact shape.reader_extends room takes more fun _ => ends more
  have longer : ∀ (text more : Bytes) (value : α), decode text = .ok value →
      decode (text ++ more) = if more.all isBlank then .ok value else .error .trailingCharacters := by
    intro text more value read
    exact readAll_append closes read more
  have shorter : ∀ (kept lost : Bytes) (value : α), decode (kept ++ lost) = .ok value →
      lost.all isBlank = false → ∃ fault, decode (α := α) kept = .error fault := by
    intro kept lost value whole solid
    cases read : decode (α := α) kept with
    | error fault => exact ⟨fault, rfl⟩
    | ok other =>
      have refused := longer kept lost other read
      rw [solid, whole] at refused
      cases refused
  refine ⟨fun value => ⟨encode value, decode_encode value⟩, longer, shorter, ?_, ?_⟩
  · intro kept lost value extracted solid
    obtain ⟨fault, refused⟩ := shorter kept lost value (decode_of_extract extracted) solid
    refine ⟨fault, ?_⟩
    rw [Payload.extract, refused]
    rfl
  · intro ν ω μ _ _ desk contract operation message kept lost value answered whole solid
    obtain ⟨fault, refused⟩ := shorter kept lost value whole solid
    refine ⟨fault.message, ?_⟩
    rw [← read_of_fault refused, ← answered]
    rfl

theorem record_ends {shape : Shape α}
    (record : shape.Record fun _ _ => True) (more : Bytes) : shape.Ends more := by
  cases shape with
  | record title fields iso => trivial
  | _ => exact record.elim

theorem replies_are_read_whole_or_not_at_all : EveryType fun α => Unmistakable α where
  toEveryRecord := every_record.imp fun _ _ _ _ record => unmistakable_of_ends (record_ends record)
  amount := unmistakable_of_ends fun _ => trivial
  decimal := unmistakable_of_ends fun _ => trivial
  payload := unmistakable_of_ends fun _ => trivial
  assetInfo := unmistakable_of_ends fun _ => trivial
  poolKind := unmistakable_of_ends fun _ => trivial
  swapSide := unmistakable_of_ends fun _ => trivial
  verdict := unmistakable_of_ends fun _ => trivial
  expiration := unmistakable_of_ends fun _ => trivial
  hook := unmistakable_of_ends fun _ => trivial

end SwapDesk.Wire
