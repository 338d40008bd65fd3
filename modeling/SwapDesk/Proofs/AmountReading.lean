import SwapDesk.Proofs.StrictReading
import SwapDesk.Proofs.StringReading
import SwapDesk.Proofs.WireRoundTrip

/-! Values that travel as strings. A string is read as the characters that it stands for, and
these alone decide what becomes of it. Amounts are such values: their texts are the numerals
below `2 ^ 128`. -/

namespace SwapDesk

namespace Wire

/-- The bytes are a JSON string with the given content: a well-formed one, however it is escaped,
with blanks around it, or anything else that is taken for a string. -/
inductive Carried (content : String) : Bytes → Prop where
  | quoted {before quoted after : Bytes} (blank : before.all isBlank = true)
      (quotes : Json.Quotes quoted content) (blank' : after.all isBlank = true) :
      Carried content (before ++ (quoted ++ after))
  | taken {text : Bytes} (read : decode text = .ok content) : Carried content text

theorem Carried.takes {content : String} {text : Bytes} (carried : Carried content text) :
    ∃ rest, string.Takes text content rest ∧ rest.all isBlank = true := by
  cases carried with
  | @quoted before quoted after blank quotes blank' =>
    exact ⟨after, Quotes.takes quotes blank after, blank'⟩
  | taken read => exact readAll_cases read

variable {α : Type} [Wire α] {check : String → Except Fault α}

/-- A type that is read by checking strings is decoded by checking the content. -/
theorem Carried.decoded {content : String} {text : Bytes} (carried : Carried content text)
    (checked : (shape (α := α)).reader room = string.refine check) :
    decode text = check content := by
  obtain ⟨rest, takes, blank⟩ := carried.takes
  unfold decode
  rw [checked]
  cases outcome : check content with
  | ok value => exact readAll_takes (takes.refine outcome) blank
  | error fault => exact readAll_fails (takes.refuse outcome)

end Wire

namespace Amount

theorem ofText_eq_ok_iff {text : String} {amount : Amount} :
    ofText text = .ok amount ↔ Numeral.Spells text amount.value := by
  unfold ofText
  split
  next value done =>
    constructor
    · intro same
      cases same
      exact ((Numeral.read_eq_ok_iff (by decide)).mp done).1
    · intro spells
      rw [spells.read amount.bounded] at done
      cases done
      rfl
  next fault failed =>
    apply iff_of_false
    · intro same
      cases same
    · intro spells
      rw [spells.read amount.bounded] at failed
      cases failed

theorem ofText_eq_error_iff {text : String} {fault : Numeral.Fault} :
    ofText text = .error fault ↔ Numeral.Refused (2 ^ 128) text fault := by
  constructor
  · intro failed
    unfold ofText at failed
    split at failed
    next => cases failed
    next refused =>
      cases failed
      exact (Numeral.read_eq_error_iff (by decide)).mp refused
  · intro refused
    unfold ofText
    split
    next done =>
      rw [refused.read] at done
      cases done
    next failed =>
      rw [refused.read] at failed
      cases failed
      rfl

theorem decode_carried {content : String} {text : Bytes} (carried : Wire.Carried content text) :
    Wire.decode text = (ofText content).mapError (.amount content) := by
  have shaped : (Wire.shape (α := Amount)).reader Wire.room =
      Wire.string.refine fun text => (ofText text).mapError (.amount text) := rfl
  exact carried.decoded shaped

/-- A string is decoded as an amount exactly if it is a numeral below `2 ^ 128`, and as the number
that the numeral spells. Any other content is quoted together with its first problem. -/
theorem strings_are_amounts_or_refused {content : String} {text : Bytes}
    (carried : Wire.Carried content text) :
    (∀ value, (∃ amount : Amount, Wire.decode text = .ok amount ∧ amount.value = value) ↔
      Numeral.Spells content value ∧ value ≤ 2 ^ 128 - 1) ∧
    (∀ fault, Wire.decode (α := Amount) text = .error fault ↔
      ∃ cause, Numeral.Refused (2 ^ 128) content cause ∧ fault = .amount content cause ∧
        fault.message = "invalid 128-bit amount " ++ Text.quoted content ++ ": " ++ cause.message) := by
  rw [decode_carried carried]
  constructor
  · intro value
    constructor
    · rintro ⟨amount, decoded, rfl⟩
      have bounded := amount.bounded
      exact ⟨ofText_eq_ok_iff.mp (mapError_eq_ok_iff.mp decoded), by omega⟩
    · rintro ⟨spells, small⟩
      have spelled : ofText content = .ok ⟨value, by omega⟩ := ofText_eq_ok_iff.mpr spells
      exact ⟨_, mapError_eq_ok_iff.mpr spelled, rfl⟩
  · intro fault
    rw [mapError_eq_error_iff]
    constructor
    · rintro ⟨cause, failed, rfl⟩
      exact ⟨cause, ofText_eq_error_iff.mp failed, rfl, rfl⟩
    · rintro ⟨cause, refused, same, -⟩
      exact ⟨cause, ofText_eq_error_iff.mpr refused, same.symm⟩

theorem largest_amount_is_decoded :
    Wire.Carried "+0340282366920938463463374607431768211455"
      (Wire.encode "+0340282366920938463463374607431768211455") ∧
    ∃ amount : Amount, Wire.decode (Wire.encode "+0340282366920938463463374607431768211455") =
      .ok amount ∧ amount.value = 2 ^ 128 - 1 := by
  have carried := Wire.Carried.taken (Wire.decode_encode "+0340282366920938463463374607431768211455")
  have row : Numeral.Digits "0340282366920938463463374607431768211455".toList :=
    ⟨by decide, List.all_eq_true.mp rfl⟩
  have spells : Numeral.Spells "+0340282366920938463463374607431768211455" (2 ^ 128 - 1) :=
    Numeral.Spells.signed row
  exact ⟨carried, ((strings_are_amounts_or_refused carried).1 _).mpr ⟨spells, Nat.le_refl _⟩⟩

end Amount

end SwapDesk
