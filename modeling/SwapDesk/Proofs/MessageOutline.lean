import Mathlib.Data.List.Forall2
import SwapDesk.Wire.Shape

/-! What of a message does not depend on the texts, numbers and flags in it. Two values are alike
if they are made in the same way: of the same variants, with the same fields set and with lists
of the same lengths. Alike values are written with the same keys in the same places. -/

namespace SwapDesk

namespace Json

mutual

/-- The value with its texts, numbers and flags blotted out. Keys, lists and nulls stay. -/
def outline : Json → Json
  | .null => .null
  | .boolean _ => .boolean true
  | .number _ => .number 0
  | .text _ => .text ""
  | .list items => .list (outlineItems items)
  | .object members => .object (outlineMembers members)

def outlineItems : List Json → List Json
  | [] => []
  | item :: items => item.outline :: outlineItems items

def outlineMembers : List (String × Json) → List (String × Json)
  | [] => []
  | (key, value) :: members => (key, value.outline) :: outlineMembers members

end

theorem outlineMembers_single (member : String × Json) :
    outlineMembers [member] = [(member.1, member.2.outline)] := by
  simp only [outlineMembers]

theorem outlineItems_map {α : Type} {spell : α → Json} {values others : List α}
    (same : List.Forall₂ (fun value other => (spell value).outline = (spell other).outline)
      values others) :
    outlineItems (values.map spell) = outlineItems (others.map spell) := by
  induction same with
  | nil => rfl
  | cons first _ ih =>
    rw [List.map_cons, List.map_cons, outlineItems, outlineItems, first, ih]

end Json

namespace Wire

mutual

def Shape.Alike {α : Type} : Shape α → α → α → Prop
  | .text, _, _ | .flag, _, _ | .number16, _, _ | .number64, _, _ => True
  | .amount, _, _ | .decimal, _, _ | .payload, _, _ => True
  | .optional _, none, none => True
  | .optional inner, some value, some other => inner.Alike value other
  | .optional _, none, some _ | .optional _, some _, none => False
  | .list item, values, others => List.Forall₂ (fun value other => item.Alike value other) values others
  | .record _ fields iso, value, other => fields.Alike (iso.parts value) (iso.parts other)
  | .choice variants iso, value, other => variants.Alike (iso.parts value) (iso.parts other)

def Fields.Alike {β σ : Type} : Fields σ β → β → β → Prop
  | .nil, (), () => True
  | .cons _ _ shape rest, (value, values), (other, others) =>
    shape.Alike value other ∧ rest.Alike values others

def Variants.Alike {β : Type} : Variants β → β → β → Prop
  | .record _ _ fields _, .inl value, .inl other => fields.Alike value other
  | .wrap _ _ shape _, .inl value, .inl other => shape.Alike value other
  | .record _ _ _ rest, .inr value, .inr other => rest.Alike value other
  | .wrap _ _ _ rest, .inr value, .inr other => rest.Alike value other
  | .record _ _ _ _, .inl _, .inr _ | .record _ _ _ _, .inr _, .inl _ => False
  | .wrap _ _ _ _, .inl _, .inr _ | .wrap _ _ _ _, .inr _, .inl _ => False

end

mutual

theorem Shape.outline_of_alike {α : Type} : (shape : Shape α) → {value other : α} →
    shape.Alike value other → (shape.json value).outline = (shape.json other).outline
  | .text, _, _, _ | .flag, _, _, _ | .number16, _, _, _ | .number64, _, _, _ => by
    simp only [Shape.json, Json.outline]
  | .amount, _, _, _ | .decimal, _, _, _ | .payload, _, _, _ => by
    simp only [Shape.json, Json.outline]
  | .optional _, none, none, _ => rfl
  | .optional inner, some value, some other, alike => by
    simp only [Shape.json]
    exact inner.outline_of_alike alike
  | .list item, values, others, alike => by
    have same := List.Forall₂.imp (fun value other first => item.outline_of_alike first) alike
    simp only [Shape.json, Json.outline, Json.outlineItems_map same]
  | .record _ fields iso, value, other, alike => by
    simp only [Shape.json, Json.outline, fields.outline_of_alike alike]
  | .choice variants iso, value, other, alike => by
    obtain ⟨key, inner⟩ := variants.outline_of_alike alike
    simp only [Shape.json, Json.outline, Json.outlineMembers_single, key, inner]

theorem Fields.outline_of_alike {β σ : Type} : (fields : Fields σ β) → {values others : β} →
    fields.Alike values others →
    Json.outlineMembers (fields.json values) = Json.outlineMembers (fields.json others)
  | .nil, (), (), _ => rfl
  | .cons _ _ shape rest, (value, values), (other, others), alike => by
    simp only [Fields.json, Json.outlineMembers, shape.outline_of_alike alike.1,
      rest.outline_of_alike alike.2]

theorem Variants.outline_of_alike {β : Type} : (variants : Variants β) → {value other : β} →
    variants.Alike value other → (variants.json value).1 = (variants.json other).1 ∧
      (variants.json value).2.outline = (variants.json other).2.outline
  | .record _ _ fields _, .inl value, .inl other, alike => by
    simp only [Variants.json, Json.outline, fields.outline_of_alike alike, and_self]
  | .wrap _ _ shape _, .inl value, .inl other, alike => ⟨rfl, shape.outline_of_alike alike⟩
  | .record _ _ _ rest, .inr value, .inr other, alike => rest.outline_of_alike alike
  | .wrap _ _ _ rest, .inr value, .inr other, alike => rest.outline_of_alike alike

end

end Wire

end SwapDesk
