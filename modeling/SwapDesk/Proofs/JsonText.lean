import SwapDesk.Proofs.JsonStrings
import SwapDesk.Proofs.WrittenNumbers

/-! The text of a JSON value in bytes. Lists and objects are taken apart item by item, with
a comma before all but the first. -/

namespace SwapDesk.Json

def separator (first : Bool) : Bytes := if first then [] else [0x2c]

def itemBytes (first : Bool) : List Json → Bytes
  | [] => []
  | item :: items => separator first ++ (item.bytes ++ itemBytes false items)

def memberBytes (first : Bool) : List (String × Json) → Bytes
  | [] => []
  | (key, value) :: members =>
    separator first ++ (Text.bytes (string key) ++ 0x3a :: (value.bytes ++ memberBytes false members))

private theorem bytes_comma : Text.bytes "," = [0x2c] := rfl

private theorem bytes_renderItems (items : List Json) :
    Text.bytes (renderItems items) = itemBytes true items := by
  induction items with
  | nil => rfl
  | cons item items ih =>
    cases items with
    | nil => simp [renderItems, itemBytes, separator, bytes]
    | cons next items =>
      rw [renderItems, Text.bytes_append, Text.bytes_append, ih, bytes_comma, List.append_assoc]
      rfl

private theorem bytes_renderMembers (members : List (String × Json)) :
    Text.bytes (renderMembers members) = memberBytes true members := by
  have colon : Text.bytes ":" = [0x3a] := rfl
  induction members with
  | nil => rfl
  | cons member members ih =>
    obtain ⟨key, value⟩ := member
    cases members with
    | nil => simp [renderMembers, memberBytes, separator, bytes, Text.bytes_append, colon]
    | cons next members =>
      rw [renderMembers]
      simp only [Text.bytes_append, ih, bytes_comma, colon, List.append_assoc]
      rfl

theorem bytes_text (value : String) : (text value).bytes = Text.bytes (string value) := by
  simp only [bytes, render]

theorem bytes_number (value : Nat) : (number value).bytes = Text.bytes value.repr := by
  simp only [bytes, render]
  rfl

theorem bytes_list (items : List Json) : (list items).bytes = 0x5b :: (itemBytes true items ++ [0x5d]) := by
  have opening : Text.bytes "[" = [0x5b] := rfl
  have closing : Text.bytes "]" = [0x5d] := rfl
  simp only [bytes, render, Text.bytes_append, bytes_renderItems, opening, closing]
  rfl

theorem bytes_object (members : List (String × Json)) :
    (object members).bytes = 0x7b :: (memberBytes true members ++ [0x7d]) := by
  have opening : Text.bytes "\x7b" = [0x7b] := rfl
  have closing : Text.bytes "\x7d" = [0x7d] := rfl
  simp only [bytes, render, Text.bytes_append, bytes_renderMembers, opening, closing]
  rfl

/-- A byte that a value can begin with: no blank, and nothing that separates or closes. -/
structure Opens (first : UInt8) : Prop where
  solid : Wire.isBlank first = false
  noComma : first ≠ 0x2c
  noBracket : first ≠ 0x5d
  noBrace : first ≠ 0x7d

theorem opens_of_isDigit {byte : UInt8} (digit : Wire.isDigit byte = true) : Opens byte := by
  refine ⟨Wire.isBlank_of_isDigit digit, ?_, ?_, ?_⟩
  all_goals
    intro same
    rw [same] at digit
    cases digit

/-- What values begin with that are neither null nor start with a digit. -/
private def openings : Bytes := [0x74, 0x66, 0x2d, 0x22, 0x5b, 0x7b]

private theorem opens_of_listed {first : UInt8} (listed : first ∈ openings) :
    Opens first ∧ first ≠ 0x6e := by
  simp only [openings, List.mem_cons, List.not_mem_nil, or_false] at listed
  rcases listed with rfl | rfl | rfl | rfl | rfl | rfl
  all_goals exact ⟨⟨rfl, nofun, nofun, nofun⟩, nofun⟩

private theorem opened {value : Json} {first : UInt8} {rest : Bytes}
    (bytes : value.bytes = first :: rest) (listed : first ∈ openings) : ∃ first rest,
      value.bytes = first :: rest ∧ Opens first ∧ (first = 0x6e → value = null) := by
  obtain ⟨opens, other⟩ := opens_of_listed listed
  exact ⟨first, rest, bytes, opens, fun same => absurd same other⟩

/-- Every value opens with a byte of its own, and only null opens with an `n`. -/
theorem bytes_open (value : Json) : ∃ first rest,
    value.bytes = first :: rest ∧ Opens first ∧ (first = 0x6e → value = null) := by
  cases value with
  | null => exact ⟨_, _, rfl, ⟨rfl, nofun, nofun, nofun⟩, fun _ => rfl⟩
  | boolean value =>
    cases value with
    | true => exact opened rfl (by simp [openings])
    | false => exact opened rfl (by simp [openings])
  | number value =>
    cases value with
    | ofNat n =>
      obtain ⟨first, rest, bytes, digit⟩ := Wire.bytes_repr_head n
      refine ⟨first, rest, (bytes_number n).trans bytes, opens_of_isDigit digit, ?_⟩
      intro same
      rw [same] at digit
      cases digit
    | negSucc n =>
      have sign : Text.bytes "-" = [0x2d] := rfl
      have bytes : (number (.negSucc n)).bytes = 0x2d :: Text.bytes (n + 1).repr := by
        simp only [bytes, render]
        change Text.bytes ("-" ++ _) = _
        rw [Text.bytes_append, sign]
        rfl
      exact opened bytes (by simp [openings])
  | text value =>
    have bytes := (bytes_text value).trans (bytes_string value)
    exact opened bytes (by simp [openings])
  | list items => exact opened (bytes_list items) (by simp [openings])
  | object members => exact opened (bytes_object members) (by simp [openings])

end SwapDesk.Json
