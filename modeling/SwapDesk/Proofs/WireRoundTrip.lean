import SwapDesk.Contract.Vault.Exit
import SwapDesk.Contract.Vault.Terms
import SwapDesk.Proofs.Base64RoundTrip
import SwapDesk.Proofs.JsonText

/-! Decoding undoes encoding for every shape whose fields and variants can be told apart. The
induction follows the shape; a value is read off the front of any input, so that the parts
of a record can be read one behind the other. -/

namespace SwapDesk

theorem Decimal.ofText_text (decimal : Decimal) : ofText decimal.text = .ok decimal := by
  unfold ofText
  split
  next => rfl
  next fault failed =>
    rw [decimal.valid] at failed
    cases failed

namespace Wire

open Json (itemBytes memberBytes separator bytes_open)

theorem endsNumber_cons {byte : UInt8} (other : isDigit byte = false) (rest : Bytes) :
    EndsNumber (byte :: rest) := by
  intro found same
  cases same
  exact other

/-- A value begins as its text does, whatever comes behind it. -/
theorem begins_bytes (value : Json) : ∃ first tail, Json.Opens first ∧
    (first = 0x6e → value = .null) ∧ ∀ rest, Begins (value.bytes ++ rest) first (tail ++ rest) := by
  obtain ⟨first, tail, bytes, opens, onlyNull⟩ := bytes_open value
  refine ⟨first, tail, opens, onlyNull, fun rest => ?_⟩
  rw [bytes, List.cons_append]
  exact begins_cons _ opens.solid

theorem Shape.json_ne_null {α : Type} (shape : Shape α) (present : shape.isOptional = false)
    (value : α) : shape.json value ≠ .null := by
  cases shape <;> simp_all [Shape.isOptional, Shape.json]

/-- A reader that takes exactly what is written for a value off any input. -/
def Reader.Undoes {α : Type} (reader : Reader α) (json : α → Json) : Prop :=
  ∀ value rest, EndsNumber rest → reader.Takes ((json value).bytes ++ rest) value rest

/-- Text that a reader accepts as the value it was written for. -/
theorem Reader.undoes_text {α : Type} {check : String → Except Fault α} {text : α → String}
    (accepts : ∀ value, check (text value) = .ok value) :
    Reader.Undoes (string.refine check) fun value => .text (text value) := by
  intro value rest _
  rw [Json.bytes_text]
  exact (string_takes (text value) rest).refine (accepts value)

theorem Reader.undoes_number {α : Type} {bound : Nat} {ofNat : Nat → α} {toNat : α → Nat}
    (small : ∀ value, toNat value < bound) (inverse : ∀ value, ofNat (toNat value) = value) :
    Reader.Undoes ((unsigned bound).map ofNat) fun value => .number (toNat value) := by
  intro value rest ends
  rw [Json.bytes_number]
  have takes := (unsigned_takes (small value) ends).map ofNat
  rwa [inverse value] at takes

theorem Reader.undoes_flag : Reader.Undoes flag .boolean := by
  intro value rest _
  cases value with
  | false => exact takes_false (begins_cons _ rfl)
  | true => exact takes_true (begins_cons _ rfl)

/-- An optional value is told from null by its first byte, so it must not be null itself. -/
theorem Reader.undoes_optional {α : Type} {reader : Reader α} {json : α → Json}
    (inner : Reader.Undoes reader json) (present : ∀ value, json value ≠ .null) :
    Reader.Undoes (optional reader) fun value => value.elim .null json := by
  intro value rest ends
  cases value with
  | none => exact takes_null (begins_cons _ rfl)
  | some value =>
    obtain ⟨first, tail, _, onlyNull, begins⟩ := begins_bytes (json value)
    exact takes_some (begins rest) (fun same => present value (onlyNull same))
      (inner value rest ends)

/-- Elements are taken one after the other up to the closing bracket. -/
theorem Reader.elements_take {α : Type} {reader : Reader α} {json : α → Json}
    (item : Reader.Undoes reader json) (values : List α) (first : Bool) (rest : Bytes) :
    (elements reader first).Takes (itemBytes first (values.map json) ++ 0x5d :: rest) values
      rest := by
  induction values generalizing first with
  | nil => exact takes_no_elements (begins_cons rest rfl)
  | cons value values ih =>
    obtain ⟨byte, tail, opens, _, begins⟩ := begins_bytes (json value)
    have ends : EndsNumber (itemBytes false (values.map json) ++ 0x5d :: rest) := by
      cases values with
      | nil => exact endsNumber_cons rfl rest
      | cons next values => exact endsNumber_cons rfl _
    have taken := item value _ ends
    rw [List.map_cons, itemBytes, List.append_assoc, List.append_assoc]
    cases first with
    | true => exact takes_first_element (begins _) opens.noBracket opens.noComma taken (ih false)
    | false =>
      exact takes_next_element (begins_cons _ rfl) (begins _) opens.noBracket taken (ih false)

def Fields.full {β σ : Type} : Fields σ β → β → σ
  | .nil, () => ()
  | .cons _ _ _ rest, (value, values) => (some value, rest.full values)

theorem Fields.complete_full {β σ : Type} : (fields : Fields σ β) → (values : β) →
    fields.complete (fields.full values) = .ok values
  | .nil, () => rfl
  | .cons _ _ _ rest, (value, values) => by
    simp only [Fields.full, Fields.complete, rest.complete_full values]
    rfl

theorem Reader.key_takes (first : Bool) (key : String) (rest : Bytes) :
    (nextKey first).Takes (separator first ++ (Text.bytes (Json.string key) ++ rest)) (some key)
      rest := by
  obtain ⟨tail, written⟩ : ∃ tail, Text.bytes (Json.string key) = 0x22 :: tail :=
    ⟨_, Json.bytes_string key⟩
  have quoted : Begins (Text.bytes (Json.string key) ++ rest) 0x22 (tail ++ rest) := by
    rw [written]
    exact begins_cons _ rfl
  cases first with
  | true => exact takes_first_key quoted (string_takes key rest)
  | false => exact takes_next_key (begins_cons _ rfl) quoted (string_takes key rest)

/-- The fields read back what they write, also as the last fields of a longer object. There
`put` stands for the slots of the fields before them. -/
def Fields.Undone {β σ : Type} (fields : Fields σ β) (room : Nat) : Prop :=
  ∀ ⦃τ : Type⦄ ⦃member : String → τ → Except Fault (Reader τ)⦄ ⦃put : σ → τ⦄,
    (∀ key ∈ fields.names, ∀ slots,
      member key (put slots) = (fields.member room key slots).map (Reader.map put)) →
    ∀ (values : β) (first : Bool) (rest : Bytes),
      (members member first (put fields.blank)).Takes
        (memberBytes first (fields.json values) ++ 0x7d :: rest) (put (fields.full values)) rest

theorem Fields.Undone.object {β σ : Type} {fields : Fields σ β} {room : Nat}
    (undone : fields.Undone room) :
    Reader.Undoes (enclosed 0x7b (room + 1) fun room =>
        (members (fields.member room) true fields.blank).refine fields.complete)
      fun values => .object (fields.json values) := by
  intro values rest _
  have same : ∀ key ∈ fields.names, ∀ slots,
      fields.member room key slots = (fields.member room key slots).map (Reader.map id) := by
    intro key _ slots
    cases fields.member room key slots with
    | error fault => rfl
    | ok reader => exact congrArg Except.ok (Reader.map_id reader).symm
  have taken := (undone same values true rest).refine (fields.complete_full values)
  rw [Json.bytes_object, List.cons_append, List.append_assoc]
  exact Reader.takes_enclosed (begins_cons _ rfl) taken

/-- The variant that is written is found by its key, and its reader takes the value back. -/
def Variants.Undone {β : Type} (variants : Variants β) (room : Nat) : Prop :=
  ∀ value, ∃ reader, variants.form room (variants.json value).1 = some reader ∧
    ∀ rest, EndsNumber rest → reader.Takes ((variants.json value).2.bytes ++ rest) value rest

theorem Variants.Undone.choice {β : Type} {variants : Variants β} {room : Nat}
    (undone : variants.Undone room) :
    Reader.Undoes (tagged variants.keys (room + 1) variants.form)
      fun value => .object [variants.json value] := by
  intro value rest _
  obtain ⟨reader, chosen, takes⟩ := undone value
  have taken := takes (0x7d :: rest) (endsNumber_cons rfl rest)
  have written : (Json.object [variants.json value]).bytes ++ rest =
      0x7b :: (Text.bytes (Json.string (variants.json value).1) ++
        0x3a :: ((variants.json value).2.bytes ++ 0x7d :: rest)) := by
    rw [Json.bytes_object]
    simp [memberBytes, separator]
  rw [written]
  exact Reader.takes_tagged (begins_cons _ rfl) (string_takes _ _) chosen (begins_cons _ rfl) taken
    (begins_cons _ rfl)

theorem Variants.key_mem {β : Type} : (variants : Variants β) → (value : β) →
    (variants.json value).1 ∈ variants.keys
  | .record _ _ _ _, .inl _ => List.mem_cons_self
  | .wrap _ _ _ _, .inl _ => List.mem_cons_self
  | .record _ _ _ rest, .inr value => List.mem_cons_of_mem _ (rest.key_mem value)
  | .wrap _ _ _ rest, .inr value => List.mem_cons_of_mem _ (rest.key_mem value)

private theorem ne_of_fresh {name key : String} {names : List String}
    (fresh : names.contains name = false) (known : key ∈ names) : key ≠ name := by
  intro same
  rw [same] at known
  simp [known] at fresh

mutual

/-- A value of any shape is taken off the front of what is written for it. -/
theorem Shape.reader_undoes {α : Type} : (shape : Shape α) → (room : Nat) →
    shape.nesting ≤ room → shape.isUnambiguous = true →
    Reader.Undoes (shape.reader room) shape.json
  | .text, _, _, _ => fun value rest _ => by
    rw [Shape.json, Json.bytes_text]
    exact string_takes value rest
  | .flag, _, _, _ => Reader.undoes_flag
  | .number16, _, _, _ => Reader.undoes_number UInt16.toNat_lt fun _ => UInt16.ofNat_toNat
  | .number64, _, _, _ => Reader.undoes_number UInt64.toNat_lt fun _ => UInt64.ofNat_toNat
  | .amount, _, _, _ => Reader.undoes_text fun value => by
    rw [Amount.ofText_text]
    rfl
  | .decimal, _, _, _ => Reader.undoes_text fun value => by
    rw [Decimal.ofText_text]
    rfl
  | .payload, _, _, _ => Reader.undoes_text fun value => by
    rw [Payload.ofBase64_toBase64]
    rfl
  | .optional inner, room, shallow, unambiguous => by
    simp only [Shape.isUnambiguous, Bool.and_eq_true, Bool.not_eq_true'] at unambiguous
    have undoes := inner.reader_undoes room shallow unambiguous.1
    have optional := Reader.undoes_optional undoes (inner.json_ne_null unambiguous.2)
    intro value
    cases value with
    | none => exact optional none
    | some value => exact optional (some value)
  | .list item, room + 1, shallow, unambiguous => by
    have undoes := item.reader_undoes room (Nat.le_of_succ_le_succ shallow) unambiguous
    intro values rest _
    rw [Shape.json, Json.bytes_list, List.cons_append, List.append_assoc]
    exact Reader.takes_enclosed (begins_cons _ rfl) (Reader.elements_take undoes values true rest)
  | .record _ fields iso, room + 1, shallow, unambiguous => by
    have undone := fields.members_undone room (Nat.le_of_succ_le_succ shallow) unambiguous
    intro value rest ends
    have taken := (undone.object (iso.parts value) rest ends).map iso.ofParts
    rwa [iso.ofParts_parts] at taken
  | .choice variants iso, room + 1, shallow, unambiguous => by
    have undone := variants.forms_undone room (Nat.le_of_succ_le_succ shallow) unambiguous
    intro value rest ends
    have taken := (undone.choice (iso.parts value) rest ends).map iso.ofParts
    rwa [iso.ofParts_parts] at taken

theorem Fields.members_undone {β σ : Type} : (fields : Fields σ β) → (room : Nat) →
    fields.nesting ≤ room → fields.isUnambiguous = true → fields.Undone room
  | .nil, _, _, _ => by
    intro τ member put _ () first rest
    exact Reader.takes_no_members (Reader.takes_no_key (begins_cons rest rfl))
  | .cons name fallback shape fields, room, shallow, unambiguous => by
    simp only [Fields.isUnambiguous, Bool.and_eq_true, Bool.not_eq_true'] at unambiguous
    obtain ⟨⟨fresh, clear⟩, others⟩ := unambiguous
    have undoes := shape.reader_undoes room (Nat.le_trans (Nat.le_max_left _ _) shallow) clear
    have undone := fields.members_undone room (Nat.le_trans (Nat.le_max_right _ _) shallow) others
    intro τ member put agrees ⟨value, values⟩ first rest
    have ends : EndsNumber (memberBytes false (fields.json values) ++ 0x7d :: rest) := by
      cases fields.json values with
      | nil => exact endsNumber_cons rfl rest
      | cons next members => exact endsNumber_cons rfl _
    have chosen := agrees name List.mem_cons_self (none, fields.blank)
    simp only [Fields.member, ite_true, Option.isSome_none, Except.map] at chosen
    have taken := ((undoes value _ ends).map fun value => (some value, fields.blank)).map put
    have later : ∀ key ∈ fields.names, ∀ slots, member key (put (some value, slots)) =
        (fields.member room key slots).map (Reader.map fun slots => put (some value, slots)) := by
      intro key known slots
      have other := ne_of_fresh fresh known
      rw [agrees key (List.mem_cons_of_mem _ known), Fields.member]
      simp only [other, ite_false]
      cases fields.member room key slots with
      | error fault => rfl
      | ok reader => exact congrArg Except.ok (Reader.map_map reader _ put)
    have continues := undone later values false rest
    rw [Fields.json, memberBytes]
    simp only [List.append_assoc, List.cons_append]
    exact Reader.takes_member (Reader.key_takes first name _) chosen (begins_cons _ rfl) taken continues

theorem Variants.forms_undone {β : Type} : (variants : Variants β) → (room : Nat) →
    variants.nesting ≤ room → variants.isUnambiguous = true → variants.Undone room
  | .nil, _, _, _ => fun value => nomatch value
  | .record _ _ _ _, 0, shallow, _ =>
    absurd (Nat.le_trans (Nat.le_max_left _ _) shallow) (Nat.not_succ_le_zero _)
  | .record _ key fields rest, room + 1, shallow, unambiguous => by
    simp only [Variants.isUnambiguous, Bool.and_eq_true, Bool.not_eq_true'] at unambiguous
    obtain ⟨⟨fresh, clear⟩, others⟩ := unambiguous
    have inside : fields.nesting + 1 ≤ room + 1 := Nat.le_trans (Nat.le_max_left _ _) shallow
    have undone := fields.members_undone room (Nat.le_of_succ_le_succ inside) clear
    have further := rest.forms_undone (room + 1) (Nat.le_trans (Nat.le_max_right _ _) shallow) others
    intro value
    cases value with
    | inl value =>
      refine ⟨_, by simp only [Variants.form, Variants.json, ite_true]; rfl, fun rest ends => ?_⟩
      exact (undone.object value rest ends).map Sum.inl
    | inr value =>
      obtain ⟨reader, chosen, takes⟩ := further value
      have other := ne_of_fresh fresh (rest.key_mem value)
      refine ⟨reader.map Sum.inr, ?_, fun behind ends => (takes behind ends).map Sum.inr⟩
      simp only [Variants.form, Variants.json, other, ite_false, chosen, Option.map]
  | .wrap _ key shape rest, room, shallow, unambiguous => by
    simp only [Variants.isUnambiguous, Bool.and_eq_true, Bool.not_eq_true'] at unambiguous
    obtain ⟨⟨fresh, clear⟩, others⟩ := unambiguous
    have undoes := shape.reader_undoes room (Nat.le_trans (Nat.le_max_left _ _) shallow) clear
    have further := rest.forms_undone room (Nat.le_trans (Nat.le_max_right _ _) shallow) others
    intro value
    cases value with
    | inl value =>
      refine ⟨(shape.reader room).map Sum.inl, ?_, fun rest ends => (undoes value rest ends).map Sum.inl⟩
      simp only [Variants.form, Variants.json, ite_true]
    | inr value =>
      obtain ⟨reader, chosen, takes⟩ := further value
      have other := ne_of_fresh fresh (rest.key_mem value)
      refine ⟨reader.map Sum.inr, ?_, fun behind ends => (takes behind ends).map Sum.inr⟩
      simp only [Variants.form, Variants.json, other, ite_false, chosen, Option.map]

end

/-- What is written for a value of any type is read as that value. -/
theorem decode_encode {α : Type} [Wire α] (value : α) : decode (encode value) = .ok value := by
  have taken := (shape (α := α)).reader_undoes room shallow unambiguous value [] nofun
  rw [List.append_nil] at taken
  exact readAll_takes taken rfl

def RoundTrips (α : Type) [Wire α] : Prop := ∀ value : α, decode (encode value) = .ok value

/-- All types that are written as well as read come back as they were. -/
theorem two_way_types_round_trip :
    RoundTrips Amount ∧ RoundTrips Decimal ∧ RoundTrips Payload ∧ RoundTrips AssetInfo ∧
      RoundTrips Asset ∧ RoundTrips PoolKind ∧ RoundTrips SwapSide ∧ RoundTrips Vault.FeeTerms ∧
      RoundTrips Vault.PoolTerms ∧ RoundTrips Vault.SwapOrder ∧ RoundTrips Expiration ∧
      RoundTrips Vault.Hook :=
  ⟨decode_encode, decode_encode, decode_encode, decode_encode, decode_encode, decode_encode,
    decode_encode, decode_encode, decode_encode, decode_encode, decode_encode, decode_encode⟩

end Wire

end SwapDesk
