import SwapDesk.Wire.Basic

/-! The market makers that a pool can be. -/

namespace SwapDesk

inductive PoolKind where
  | xyk
  | stableswap
  | stable5swap
  | weighted
  deriving DecidableEq

namespace PoolKind

def all : List PoolKind := [.xyk, .stableswap, .stable5swap, .weighted]

def name : PoolKind → String
  | .xyk => "xyk"
  | .stableswap => "stableswap"
  | .stable5swap => "stable5swap"
  | .weighted => "weighted"

/-- A name that no kind has. -/
structure Unknown where
  name : String
  deriving DecidableEq

def Unknown.message (unknown : Unknown) : String :=
  "Unknown pool kind " ++ Text.quoted unknown.name ++
    "! Expected one of: xyk, stableswap, stable5swap, weighted."

def ofName (name : String) : Except Unknown PoolKind :=
  match all.find? (·.name = name) with
  | some kind => .ok kind
  | none => .error ⟨name⟩

end PoolKind

instance : Wire PoolKind where
  shape := .choice
    (.record "Xyk" "xyk" .nil <|
     .record "Stableswap" "stableswap" .nil <|
     .record "Stable5swap" "stable5swap" .nil <|
     .record "Weighted" "weighted" .nil .nil)
    { ofParts := fun
        | .inl () => .xyk
        | .inr (.inl ()) => .stableswap
        | .inr (.inr (.inl ())) => .stable5swap
        | .inr (.inr (.inr (.inl ()))) => .weighted
      parts := fun
        | .xyk => .inl ()
        | .stableswap => .inr (.inl ())
        | .stable5swap => .inr (.inr (.inl ()))
        | .weighted => .inr (.inr (.inr (.inl ())))
      parts_ofParts := by rintro (_ | _ | _ | _ | ⟨⟨⟩⟩) <;> rfl
      ofParts_parts := by rintro (_ | _ | _ | _) <;> rfl }

end SwapDesk
